import Schematic.Issue
import Schematic.Record

/-!
Instances of records.  The instance of a data record takes a value for each of its fields that
has no default, and no others.  That of a model takes what there is: a field without a value
gets a copy of its default, or is not set.

A record that descends from both kinds is made by whichever comes first in its linearization, a
data record or the root of models.
-/

namespace Schematic

mutual

/-- A view somewhere in a value.  Views cannot be copied. -/
def Value.holdsView : Value → Bool
  | .view _ => true
  | .list items | .tuple items => itemsHoldView items
  | .dict entries => entriesHoldView entries
  | .record _ fields => fieldsHoldView fields
  | _ => false

def Value.itemsHoldView : List Value → Bool
  | [] => false
  | item :: rest => holdsView item || itemsHoldView rest

def Value.entriesHoldView : List (Value × Value) → Bool
  | [] => false
  | (key, value) :: rest => holdsView key || holdsView value || entriesHoldView rest

def Value.fieldsHoldView : List (String × Option Value) → Bool
  | [] => false
  | (_, some value) :: rest => holdsView value || fieldsHoldView rest
  | (_, none) :: rest => fieldsHoldView rest

end

namespace Registry

inductive InstanceFault where
  | unexpected (record field : String)
  /-- A value under the name of what is given in any case. -/
  | givenTwice (maker name : String)
  /-- No values for fields without a default. -/
  | missing (record : String) (fields : List String)
  /-- No values for fields of a record that is checked as a model. -/
  | absent (record : String) (fields : List String)
  /-- A model that a data record is to make: it cannot note which of its fields are set. -/
  | unnoted (record : String)
  | notCopied
  deriving DecidableEq

/-- The problems of an instance that is checked as a model, with its record. -/
def InstanceFault.issues? : InstanceFault → Option (String × List Issue)
  | .absent record fields => some (record, fields.map fun field => ⟨[.name field], .missing⟩)
  | _ => none

def InstanceFault.message : InstanceFault → String
  | .unexpected record field =>
    record ++ ".__init__() got an unexpected keyword argument " ++ Text.quoted field
  | .givenTwice maker name =>
    maker ++ "() got multiple values for argument " ++ Text.quoted name
  | .missing record fields =>
    record ++ ".__init__() missing " ++ toString fields.length ++
      " required keyword-only argument" ++ (if fields.length = 1 then ": " else "s: ") ++
      Text.enumerated (fields.map Text.quoted)
  | .absent _ _ => Problem.missing.message .value
  | .unnoted record =>
    Text.quoted record ++ " object has no attribute '__pydantic_fields_set__'"
  | .notCopied => "cannot pickle 'mappingproxy' object"

def given? (values : List (String × Value)) (name : String) : Option Value :=
  (values.find? (·.1 == name)).map Prod.snd

def copied (v : Value) : Except InstanceFault Value :=
  if v.holdsView then .error .notCopied else .ok v

/-! ### Models -/

/-- The name under which the model itself is given when an instance of it is made. -/
def reservedMember : String := "cls"

/-- What an instance of a model holds under a field. -/
def modelAttribute (values : List (String × Value)) (field : ModelField) :
    Except InstanceFault (String × Option Value) :=
  match given? values field.name with
  | some v => .ok (field.name, some v)
  | none => do return (field.name, ← field.default.mapM copied)

def constructModel (c : RecordClass) (values : List (String × Value)) :
    Except InstanceFault Value := do
  if values.any (·.1 == reservedMember) then
    throw (.givenTwice "BaseModel.model_construct" reservedMember)
  return .record c.ref (← c.modelFields.mapM (modelAttribute values))

/-- An instance of a record with the given data fields that is made and checked as a model. -/
def validateModel (c : RecordClass) (fields : List FieldDecl) (values : List (String × Value)) :
    Except InstanceFault Value := do
  let absent := c.modelFields.filter fun f => f.default.isNone && (given? values f.name).isNone
  if !absent.isEmpty then
    throw (.absent c.ref.name (absent.map (·.name)))
  let attributes ← c.modelFields.mapM (modelAttribute values)
  return .record c.ref (fields.map fun f =>
    (f.name, (attributes.find? (·.1 == f.name)).bind Prod.snd))

/-! ### Data records -/

/-- The first value for a name that is no field. -/
def unexpected? (record : String) (fields : List FieldDecl) (values : List (String × Value)) :
    Option InstanceFault :=
  let isField (name : String) : Bool := fields.any fun f => f.loaded && f.name == name
  let isOwn (name : String) : Bool := name == "self" && !fields.any fun f => f.name == name
  (values.find? fun (name, _) => !isField name).map fun (name, _) =>
    if isOwn name then .givenTwice (record ++ ".__init__") name else .unexpected record name

/-- The names of the fields that have neither a default nor a value. -/
def missingFields (fields : List FieldDecl) (values : List (String × Value)) : List String :=
  (fields.filter fun f =>
    f.loaded && f.default.isNone && (given? values f.name).isNone).map (·.name)

/-- What an instance of a data record holds under a field: the value given for it, or else its
default. -/
def dataAttribute (registry : Registry) (c : RecordClass) (values : List (String × Value))
    (field : FieldDecl) : Except InstanceFault (String × Option Value) := do
  match if field.loaded then given? values field.name else none with
  | some v => return (field.name, some v)
  | none =>
    let own ← (field.default.filter isCopied).mapM copied
    -- A field that takes no part in loading may share the default of an ancestor.
    let shared :=
      if field.loaded then field.default else registry.sharedDefault? c field.name
    return (field.name, own <|> shared)

def constructData (registry : Registry) (maker c : RecordClass) (fields : List FieldDecl)
    (values : List (String × Value)) : Except InstanceFault Value := do
  if let some fault := unexpected? maker.ref.name fields values then
    throw fault
  let missing := missingFields fields values
  if !missing.isEmpty then
    throw (.missing maker.ref.name missing)
  let isNoted (f : FieldDecl) : Bool :=
    (f.loaded || f.default.any isCopied) && f.name.toList.head? != some '_'
  if c.isModel && !maker.ref.frozen && fields.any isNoted then
    throw (.unnoted c.ref.name)
  return .record c.ref (← fields.mapM (registry.dataAttribute c values))

/-- The data record that makes the instances of a record with the given linearization, unless
they are made as models. -/
def maker? (registry : Registry) : List RecordRef → Option RecordClass
  | [] => none
  | ref :: rest =>
    if ref = .modelRoot then none
    else if ref.kind = .data then registry.find? ref <|> maker? registry rest
    else maker? registry rest

def instantiate (registry : Registry) (c : RecordClass) (values : List (String × Value)) :
    Except InstanceFault Value :=
  match c.dataFields, registry.maker? c.ancestry with
  | none, _ => constructModel c values
  | some fields, none => validateModel c fields values
  | some fields, some maker => registry.constructData maker c fields values

end Registry
end Schematic
