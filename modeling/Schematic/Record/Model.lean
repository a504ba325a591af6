import Schematic.Record

/-!
The fields of models.  A model takes over the fields of its ancestors, those of data records
included, and adds its own.  The references in its declarations can name the model, then the
fields declared beside them, which stand for their defaults, and then the records that are
defined.  A type with a reference that names nothing is incomplete; it is looked at again when
the definitions it came with are complete, where the fields stand for nothing.
-/

namespace Schematic

inductive ConfigFault where
  /-- A field without a value takes its place. -/
  | field
  | notIterable (className : String)
  /-- A member, by its place, that is no pair. -/
  | notSequence (place : Nat)
  | notPair (place length : Nat)
  | key (fault : Value.KeyFault)
  deriving DecidableEq

def ConfigFault.message : ConfigFault → String
  | .field =>
    "`model_config` cannot be used as a model field name. Use `model_config` for model " ++
      "configuration."
  | .notIterable className => (Reference.Error.notIterable className).message
  | .notSequence place =>
    "cannot convert dictionary update sequence element #" ++ toString place ++ " to a sequence"
  | .notPair place length =>
    "dictionary update sequence element #" ++ toString place ++ " has length " ++
      toString length ++ "; 2 is required"
  | .key fault => fault.message

inductive ModelFault where
  | reference (e : Reference.Error)
  /-- A type that is the default of its field. -/
  | ownDefault
  | config (fault : ConfigFault)
  /-- A field that would take the place of the whole model. -/
  | root
  deriving DecidableEq

def ModelFault.message : ModelFault → String
  | .reference e => e.message
  | .ownDefault =>
    "Error when building FieldInfo from annotated attribute. Make sure you don't have any field " ++
      "name clashing with a type annotation."
  | .config fault => fault.message
  | .root =>
    "To define root models, use `pydantic.RootModel` rather than a field called '__root__'"

/-- The page of the manual that explains a fault. -/
def ModelFault.page? : ModelFault → Option String
  | .ownDefault => some "unevaluable-type-annotation"
  | .config .field => some "model-config-invalid-field-name"
  | _ => none

namespace Registry

/-! ### Names with a meaning of their own -/

def configName : String := "model_config"

/-- The name of a field that would take the place of the whole model. -/
def rootName : String := "__root__"

/-- A name that a model can have as a field; the others are its own affair. -/
def isModelField (name : String) : Bool :=
  name.toList.head? != some '_' && name != configName

/-- A name that a model keeps to itself: it starts with a single underscore. -/
def isPrivate (name : String) : Bool :=
  match name.toList with
  | '_' :: '_' :: _ => false
  | '_' :: _ => true
  | _ => false

/-- The first of values, from a place on, that is no pair of a key and a value. -/
def pairFault? (place : Nat) : List Value → Option ConfigFault
  | [] => none
  | pair :: rest =>
    match pair.elements? with
    | none => some (.notSequence place)
    | some [key, _] => (key.keyFault?.map .key) <|> pairFault? (place + 1) rest
    | some items => some (.notPair place items.length)

def configFault? (field : FieldDecl) : Option ConfigFault :=
  let isTyped : Bool := match field.type with
    | .value v => v.isTruthy
    | _ => true
  match field.default with
  | none =>
    if !field.bare then some (.notIterable TypeExpr.ellipsis.operandClass)
    else if isTyped then some .field
    else none
  | some .null => if isTyped then some .field else none
  | some (.dict _) | some (.view _) => none
  | some v =>
    if !v.isTruthy then none
    else
      match v.elements? with
      | none => some (.notIterable v.operandClass)
      | some pairs => pairFault? 0 pairs

/-- The names of the declared fields of a model are no names with another meaning. -/
def checkMembers (fields : List FieldDecl) : Except ModelFault Unit :=
  match (fields.find? (·.name == configName)).bind configFault? with
  | some fault => .error (.config fault)
  | none => if fields.any (·.name == rootName) then .error .root else .ok ()

/-! ### References -/

/-- What the references of a model can name, given what its attributes stand for. -/
def modelScope (registry : Registry) (c : RecordClass) (attribute? : String → Option TypeExpr) :
    Reference.Scope where
  find name :=
    if name = c.ref.name then some (.record c.ref)
    else attribute? name <|> registry.latestType? name
  shared := (registry.scopeOf c).shared

/-- What a declared field stands for while its model is defined: its default, or an ellipsis where it
is declared to have none. -/
def declaredAttribute? (fields : List FieldDecl) (name : String) : Option TypeExpr :=
  if isPrivate name then none
  else (fields.find? (·.name == name)).bind fun field =>
    match field.default with
    | some v => some (.value v)
    | none => if field.bare then none else some .ellipsis

/-- What the declarations of a record can name while it is defined. -/
def definitionScope (registry : Registry) (c : RecordClass) : Reference.Scope :=
  registry.modelScope c fun name =>
    match c.ref.kind with
    | .model => declaredAttribute? c.own name
    | .data => (c.ownShared? name).map .value

/-- A type with its references looked up, unless one of them names nothing. -/
def lookUp? (scope : Reference.Scope) (type : TypeExpr) : Except ModelFault (Option TypeExpr) :=
  match Reference.resolve scope type with
  | .ok type => .ok (some type)
  | .error (.unknownName _) => .ok none
  | .error e => .error (.reference e)

def declaredField (scope : Reference.Scope) (field : FieldDecl) : Except ModelFault ModelField := do
  let type ← (field.type.asArgument).mapError fun e => .reference (.formation e)
  match ← lookUp? scope type with
  | some type => return ⟨field.name, type, field.default, true⟩
  | none => return ⟨field.name, type, field.default, false⟩

/-! ### Fields -/

/-- A value of which there is a single object. -/
def isSingle : Value → Bool
  | .bool _ => true
  | .int i => -5 ≤ i && i ≤ 256
  | _ => false

/-- The type of a field is its default: the type is a reference to the field itself, or both are
one object. -/
def isOwnDefault (declared : FieldDecl) (field : ModelField) : Bool :=
  let namesItself : Bool := match declared.type with
    | .value (.str text) =>
      match Reference.parse? text with
      | some (.name name) => name == declared.name
      | _ => false
    | _ => false
  match declared.default, field.type with
  | none, .ellipsis => !declared.bare
  | some v, .value w => namesItself || (isSingle v && v.sameTyped w)
  | _, _ => false

/-- The fields that the models below a record take over from it alone. -/
def inheritedFields (registry : Registry) (c : RecordClass) : Except ModelFault (List ModelField) :=
  if c.isModel then .ok c.modelFields
  else c.own.mapM fun field =>
    declaredField (registry.definitionScope c) { field with default := none }

/-- The fields of a record as a model, given its declarations. -/
def fieldsAsModel (registry : Registry) (c : RecordClass) (declared : List FieldDecl) :
    Except ModelFault (List ModelField) := do
  let ancestors := c.ancestry.tail
  let inherited ← (registry.findAll ancestors.reverse).mapM registry.inheritedFields
  let fields ← declared.mapM (declaredField (registry.definitionScope c))
  let ownDefaults := (declared.zip fields).any fun (d, f) => isModelField f.name && isOwnDefault d f
  if c.ref.kind = .model && ownDefaults then throw .ownDefault
  -- A shared default of a data record counts for every field that is not declared again.
  let inherited := inherited.flatten.map fun field =>
    { field with default := registry.sharedAmong? ancestors field.name <|> field.default }
  return (mergeFields ModelField.name [inherited, fields]).filter fun f => isModelField f.name

/-- The fields of a model with the references of the incomplete ones looked up, unless one of them
names nothing. -/
def completeFields? (scope : Reference.Scope) :
    List ModelField → Except ModelFault (Option (List ModelField))
  | [] => .ok (some [])
  | field :: rest => do
    let type? ← if field.isComplete then pure (some field.type) else lookUp? scope field.type
    match type? with
    | none => return none
    | some type =>
      let rest? ← completeFields? scope rest
      return rest?.map ({ field with type, isComplete := true } :: ·)

/-- A model with its incomplete fields looked at again. -/
def settle (registry : Registry) (c : RecordClass) : Except ModelFault RecordClass := do
  match ← completeFields? (registry.modelScope c fun _ => none) c.modelFields with
  | some modelFields => return { c with modelFields }
  | none => return c

end Registry
end Schematic
