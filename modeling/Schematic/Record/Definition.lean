import Schematic.Record.Model
import Schematic.Text.Normal

/-!
The definition of records.  A record is refused if its fields or its bases cannot be what they
are declared as; otherwise it is added to those defined before.  Records that are defined
together are settled together.
-/

namespace Schematic
namespace Registry

inductive DefinitionFault where
  | notIdentifier (name : String)
  | reserved (name : String)
  | duplicateField (name : String)
  /-- A field name that is not in normal form. -/
  | notNormal (name : String)
  /-- Two parameters, of the function in a line, that have the same normal form. -/
  | sameParameter (name : String) (line : Nat)
  /-- A NUL character in the name of the record. -/
  | nulName
  | duplicateBase (name : String)
  /-- Bases whose ancestors have no common order. -/
  | noOrder (heads : List String)
  /-- A default that all instances would share and that could be changed. -/
  | changeableDefault (className field : String)
  /-- A record that can be changed below one that cannot. -/
  | frozenBase
  /-- A record that cannot be changed below one that can. -/
  | changeableBase
  /-- A model none of whose bases is a model. -/
  | noModelBase (name : String)
  | model (fault : ModelFault)
  deriving DecidableEq

def DefinitionFault.message : DefinitionFault → String
  | .notIdentifier name => "Field names must be valid identifiers: " ++ Text.quoted name
  | .reserved name => "Field names must not be keywords: " ++ Text.quoted name
  | .duplicateField name => "Field name duplicated: " ++ Text.quoted name
  | .notNormal name =>
    "__create_fn__() got an unexpected keyword argument '_type_" ++ name ++ "'"
  | .sameParameter name line =>
    "duplicate argument '" ++ name ++ "' in function definition (<string>, line " ++
      toString line ++ ")"
  | .nulName => "type name must not contain null characters"
  | .duplicateBase name => "duplicate base class " ++ name
  | .noOrder heads =>
    "Cannot create a consistent method resolution\norder (MRO) for bases " ++
      ", ".intercalate heads
  | .changeableDefault className field =>
    "mutable default <class " ++ Text.quoted className ++ "> for field " ++ field ++
      " is not allowed: use default_factory"
  | .frozenBase => "cannot inherit non-frozen dataclass from a frozen one"
  | .changeableBase => "cannot inherit frozen dataclass from a non-frozen one"
  | .noModelBase name => name ++ ".__init_subclass__() takes no keyword arguments"
  | .model fault => fault.message

/-! ### Names -/

/-- The first of names that is no name for a field of a data record. -/
def checkNames : List String → List String → Except DefinitionFault Unit
  | _, [] => .ok ()
  | seen, name :: rest =>
    if !Text.isIdentifier name.toList then .error (.notIdentifier name)
    else if Reference.keywords.contains name then .error (.reserved name)
    else if seen.contains name then .error (.duplicateField name)
    else checkNames (name :: seen) rest

/-- The first element of a list that comes after an equal one. -/
def repeated? {α : Type} [DecidableEq α] (seen : List α) : List α → Option α
  | [] => none
  | a :: rest => if seen.contains a then some a else repeated? (a :: seen) rest

def normalName (name : String) : String :=
  String.ofList (Text.normalForm name.toList)

/-- The fields of a data record become parameters, which are told apart by their normal forms; a
field is found again only under a name in normal form. -/
def checkParameters (fields : List FieldDecl) : Except DefinitionFault Unit :=
  let names := fields.map (·.name)
  let loaded := ((fields.filter (·.loaded)).map (·.name)).map normalName
  -- The instance is a parameter, too, which makes way for a field of its name.
  let parameters := if names.contains "self" then loaded else "self" :: loaded
  match repeated? [] (names.map normalName), repeated? [] parameters with
  | some name, _ => .error (.sameParameter ("_type_" ++ name) 1)
  | none, some name => .error (.sameParameter name 2)
  | none, none =>
    match names.find? fun name => normalName name != name with
    | some name => .error (.notNormal name)
    | none => .ok ()

def checkClassName (name : String) : Except DefinitionFault Unit :=
  if name.toList.contains '\x00' then .error .nulName else .ok ()

/-! ### Bases -/

def duplicate? : List RecordRef → Option RecordRef
  | [] => none
  | ref :: rest => if rest.contains ref then some ref else duplicate? rest

def ancestorsOf (kind : RecordKind) (bases : List RecordClass) :
    Except DefinitionFault (List RecordRef) :=
  match bases, duplicate? (bases.map (·.ref)) with
  | [], _ => .ok kind.roots
  | _, some ref => .error (.duplicateBase ref.name)
  | bases, none =>
    (linearize (bases.map (·.ancestry)) (bases.map (·.ref))).mapError fun heads =>
      .noOrder (heads.map (·.name))

/-- A data record can be changed if and only if its ancestors can. -/
def checkFrozen (frozen : Bool) (ancestors : List RecordClass) : Except DefinitionFault Unit :=
  let data := ancestors.filter (·.ref.kind = .data)
  if data.isEmpty then .ok ()
  else if data.any (·.ref.frozen) then if frozen then .ok () else .error .frozenBase
  else if frozen then .error .changeableBase
  else .ok ()

/-! ### Defaults -/

/-- The class of a default that can be changed and is shared all the same. -/
def changeableClass? : Value → Option String
  | .view _ => some "mappingproxy"
  | .record ref _ => if ref.frozen then none else some ref.qualified
  | _ => none

def checkDefaults : List FieldDecl → Except DefinitionFault Unit
  | [] => .ok ()
  | field :: rest =>
    match field.default.bind changeableClass? with
    | some className => .error (.changeableDefault className field.name)
    | none => checkDefaults rest

/-! ### Records -/

/-- A declaration with the default that it finds: where it is bare, one that an ancestor shares. -/
def filled (registry : Registry) (ancestors : List RecordRef) (field : FieldDecl) : FieldDecl :=
  if field.bare then
    { field with default := field.default <|> registry.sharedAmong? ancestors field.name }
  else field

/-- The declarations of a data record below a model: of what is declared for a field, the model
takes everything but its type. -/
def belowModel (registry : Registry) (ancestors : List RecordRef) (field : FieldDecl) : FieldDecl :=
  { field with default := registry.sharedAmong? ancestors field.name, tag := "", loaded := true }

/-- The fields of a record as a data record, given its own and its ancestors. -/
def fieldsAsData (registry : Registry) (kind : RecordKind) (own : List FieldDecl)
    (ancestors : List RecordRef) : Option (List FieldDecl) :=
  match kind with
  | .data =>
    let inherited := (registry.findAll ancestors.reverse).filterMap (·.dataFields)
    some (mergeFields FieldDecl.name (inherited ++ [own]))
  | .model =>
    ((registry.findAll ancestors).find? (·.ref.kind = .data)).bind (·.dataFields)

def classOf (registry : Registry) (decl : RecordDecl) (bases : List RecordClass) :
    Except DefinitionFault RecordClass := do
  let frozen := decl.frozen && decl.kind = .data
  let ref : RecordRef := ⟨registry.classes.length, decl.kind, recordModule, decl.name, frozen⟩
  let ancestors ← ancestorsOf decl.kind bases
  let isModel := ancestors.contains .modelRoot
  let declared := mergeFields FieldDecl.name [decl.fields]
  let own := if decl.kind = .data && isModel then declared.map (registry.belowModel ancestors)
    else declared
  let c : RecordClass := {
    ref
    ancestry := ref :: ancestors
    own
    dataFields := registry.fieldsAsData decl.kind (own.map (registry.filled ancestors)) ancestors
    modelFields := [] }
  if isModel then
    let fields := declared.map (registry.filled ancestors)
    return { c with modelFields := ← (registry.fieldsAsModel c fields).mapError .model }
  else return c

def define (registry : Registry) (decl : RecordDecl) : Except DefinitionFault Registry := do
  let bases := decl.bases.filterMap registry.latest?
  match decl.kind with
  | .data =>
    checkNames [] (decl.fields.map (·.name))
    checkClassName decl.name
    let c ← registry.classOf decl bases
    checkDefaults c.own
    checkFrozen decl.frozen (registry.findAll c.ancestry.tail)
    checkParameters (c.dataFields.getD [])
    return ⟨registry.classes ++ [c]⟩
  | .model =>
    if bases.isEmpty || bases.any (·.isModel) then
      (checkMembers (mergeFields FieldDecl.name [decl.fields])).mapError .model
    checkClassName decl.name
    let c ← registry.classOf decl bases
    if c.isModel then return ⟨registry.classes ++ [c]⟩ else throw (.noModelBase decl.name)

/-- The models after the first `count` records, settled. -/
def settleFrom (registry : Registry) (count : Nat) : Except DefinitionFault Registry := do
  let settled ← ((registry.classes.drop count).mapM registry.settle).mapError .model
  return ⟨registry.classes.take count ++ settled⟩

/-- Records that are defined together: the models among them may refer to each other. -/
def defineAll (registry : Registry) (decls : List RecordDecl) :
    Except DefinitionFault Registry := do
  let defined ← decls.foldlM define registry
  defined.settleFrom registry.classes.length

/-! ### The records that come with the library -/

def schemaRef : RecordRef := ⟨0, .model, "jsonspec.spec", "Spec", true⟩

def fieldRef : RecordRef := ⟨1, .model, "jsonspec.spec", "Field", true⟩

/-- The fields of the record of schemas. -/
def schemaFields : List ModelField :=
  let optional (type : TypeExpr) : TypeExpr := .union .barred [type, .named .null]
  [⟨"type", .named .kind, none, true⟩,
    ⟨"description", .scalar .str, some (.str ""), true⟩,
    ⟨"fields", optional (.mapping .dict [.scalar .str, .record fieldRef]), some .null, true⟩,
    ⟨"elements", optional (.record schemaRef), some .null, true⟩]

/-- The further fields of the record of fields. -/
def fieldFields : List ModelField :=
  [⟨"required", .scalar .bool, some (.bool false), true⟩,
    ⟨"default", .named .any, some .null, true⟩,
    ⟨"tags", .generic ⟨ClassRef.standard, "tuple"⟩ [.scalar .str, .ellipsis], some (.tuple []),
      true⟩]

def initial : Registry :=
  let roots := RecordKind.roots .model
  ⟨[⟨schemaRef, schemaRef :: roots, [], none, schemaFields⟩,
    ⟨fieldRef, fieldRef :: schemaRef :: roots, [], none, schemaFields ++ fieldFields⟩]⟩

end Registry
end Schematic
