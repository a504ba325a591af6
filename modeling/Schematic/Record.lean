import Schematic.Record.Linearization
import Schematic.Reference.Evaluation

/-!
Records: classes with declared fields.  A record inherits the fields of its bases, in the
order of its linearization from the far end; a field declared again keeps its first place
and takes everything else from the later declaration.

There are two kinds.  The references of a data record are looked up whenever its fields are
read, and one that names nothing leaves the record without fields.  Those of a model are
looked up when the model is defined and once more when the definitions it came with are
complete; a type with one that names nothing stays as it is.

A record that descends from both kinds counts as a data record.  Its fields as a data record
are then those of its data ancestors, and as a model it has the fields of all its ancestors.
-/

namespace Schematic

/-- A declared field.  What qualifies its declaration rather than its type is left out: that it is
final, and the extras in which a model looks for a default or another name. -/
structure FieldDecl where
  name : String
  type : TypeExpr
  default : Option Value
  /-- The tag of the field, apart from those that annotate its type. -/
  tag : String
  /-- The field takes part in loading.  One that does not has at most its default. -/
  loaded : Bool
  /-- Nothing but its type is declared, and a default that an ancestor shares under its name is taken
  for its own.  Any other field without a default is declared to have none. -/
  bare : Bool := false

/-- A declared record.  Its class has no other members than its fields make: those that every class
has, or every model, are left out, so that a field under the name of one takes no default from it. -/
structure RecordDecl where
  name : String
  kind : RecordKind
  fields : List FieldDecl
  bases : List String
  /-- Its instances cannot be changed.  Those of a model always can. -/
  frozen : Bool

structure ModelField where
  name : String
  type : TypeExpr
  default : Option Value
  /-- The references of the type are looked up. -/
  isComplete : Bool

/-- A record that is defined. -/
structure RecordClass where
  ref : RecordRef
  /-- The linearization of the record: itself, and its ancestors from near to far. -/
  ancestry : List RecordRef
  own : List FieldDecl
  /-- All its fields as a data record, if it is one or descends from one. -/
  dataFields : Option (List FieldDecl)
  /-- All its fields as a model, if it descends from one. -/
  modelFields : List ModelField

/-- A field of a record as derivation and loading see it. -/
structure RecordField where
  name : String
  hint : TypeExpr
  /-- The whole tag of the field. -/
  tag : String
  default : Option Value

/-- The records defined so far, in order of definition. -/
structure Registry where
  classes : List RecordClass

/-- Fields of several classes by name, the later ones in force. -/
def mergeFields {α : Type} (name : α → String) (groups : List (List α)) : List α :=
  let named := groups.flatten.foldl (fun found field => Value.putMember (name field) field found) []
  named.map Prod.snd

/-- A record that descends from the root of models. -/
def RecordClass.isModel (c : RecordClass) : Bool :=
  c.ancestry.contains .modelRoot

namespace Registry

def find? (registry : Registry) (ref : RecordRef) : Option RecordClass :=
  registry.classes.find? fun c => c.ref = ref

/-- The module of the records that are declared by name. -/
def recordModule : String := "records"

def latest? (registry : Registry) (name : String) : Option RecordClass :=
  registry.classes.reverse.find? fun c =>
    c.ref.module = recordModule && c.ref.name = name

def findAll (registry : Registry) (refs : List RecordRef) : List RecordClass :=
  refs.filterMap registry.find?

end Registry

/-! ### Shared defaults -/

/-- A default that every instance gets a copy of its own of; the other defaults are shared. -/
def isCopied : Value → Bool
  | .list _ | .dict _ => true
  | _ => false

/-- The default of a name that the instances of a record share by its own declaration. -/
def RecordClass.ownShared? (c : RecordClass) (name : String) : Option Value :=
  match c.ref.kind with
  | .data => ((c.own.find? (·.name == name)).bind (·.default)).filter (!isCopied ·)
  | .model => none

namespace Registry

/-- The shared default of a name: the nearest one among a record and its ancestors. -/
def sharedAmong? (registry : Registry) (ancestry : List RecordRef) (name : String) :
    Option Value :=
  (registry.findAll ancestry).findSome? fun ancestor => ancestor.ownShared? name

def sharedDefault? (registry : Registry) (c : RecordClass) (name : String) : Option Value :=
  registry.sharedAmong? c.ancestry name

/-! ### Fields -/

def latestType? (registry : Registry) (name : String) : Option TypeExpr :=
  (registry.latest? name).map fun c => .record c.ref

/-- What the references in the declarations of a record can name when its fields are read: the
latest record of a name, and then the defaults that the record shares. -/
def scopeOf (registry : Registry) (c : RecordClass) : Reference.Scope where
  find name := registry.latestType? name <|> (c.ownShared? name).map .value
  shared ref name := (registry.find? ref).bind fun c => registry.sharedDefault? c name

/-- The types that a record declares, by field name, looked up among what it can name. -/
def ownHints (registry : Registry) (c : RecordClass) :
    Except Reference.Error (List (String × TypeExpr)) :=
  c.own.mapM fun field => do
    let hint ← Reference.hintOf (registry.scopeOf c) field.type
    return (field.name, hint)

/-- The types of the fields of a data record. -/
def dataHints (registry : Registry) (c : RecordClass) :
    Except Reference.Error (List (String × TypeExpr)) := do
  -- Every declared type is looked up, also one that is declared again nearer to the record.
  let hints ← (registry.findAll c.ancestry.reverse).mapM registry.ownHints
  return hints.flatten.foldl (fun found (name, hint) => Value.putMember name hint found) []

/-- Tags one after the other, the empty ones left out. -/
def joinTags (tags : List String) : String :=
  " ".intercalate (tags.filter (· ≠ ""))

/-- A field of a data record: its own tag counts before those of its type. -/
def dataField (field : FieldDecl) (hint : TypeExpr) : RecordField :=
  ⟨field.name, hint, joinTags [field.tag, TypeExpr.tagText hint.extras], field.default⟩

/-- A field of a model: its type gives the tags, and is taken without its extras. -/
def modelField (field : ModelField) : RecordField :=
  ⟨field.name, field.type.base, TypeExpr.tagText field.type.extras, field.default⟩

/-- The fields of a record that take part in loading. -/
def fields (registry : Registry) (c : RecordClass) :
    Except Reference.Error (List RecordField) :=
  match c.dataFields with
  | none => .ok (c.modelFields.map modelField)
  | some fields => do
    let hints ← registry.dataHints c
    return (fields.filter (·.loaded)).map fun field =>
      dataField field (((hints.find? (·.1 == field.name)).map Prod.snd).getD (.named .any))

/-- The member of a class in which a model lists its fields. -/
def fieldsMember : String := "model_fields"

/-- The record that a type is.  A model may have extras. -/
def recordOf (registry : Registry) (type : TypeExpr) : Except Reference.Error RecordClass :=
  let record? := match type with
    | .record ref => registry.find? ref
    | .annotated (.record ref) _ => (registry.find? ref).filter (·.ref.kind = .model)
    | _ => none
  match record?, Reference.memberOf ⟨fun _ => none, fun _ _ => none⟩ (.type type) fieldsMember with
  | some c, _ => .ok c
  | none, .error e => .error e
  | none, .ok _ => .error (.namelessMember fieldsMember)

end Registry
end Schematic
