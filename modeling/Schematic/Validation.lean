import Schematic.Coercion

/-!
Validation of values against schemas.  Fields are visited in order of declaration and
elements in order, and the first mismatch is reported together with the way to it.  A
member that is null counts as absent, and members that are not declared do not matter.
-/

namespace Schematic

/-- The value is of a kind, whatever it holds; a boolean is no number. -/
def Kind.accepts : Kind → Value → Bool
  | .boolean, .bool _ => true
  | .string, .str _ => true
  | .integer, .int _ => true
  | .integer, .float x => x.isWhole
  | .number, .int _ => true
  | .number, .float _ => true
  | .datetime, .datetime _ => true
  | .datetime, value => Coercion.datetime.accepts value
  | .object, value => value.entries?.isSome
  | .array, value => value.items?.isSome
  | _, _ => false

namespace Validation

/-- A check of every element, up to the first that fails; `index` is the place of the first
element. -/
def eachElement (check : Value → Except Failure Unit) : Nat → List Value → Except Failure Unit
  | _, [] => .ok ()
  | index, item :: rest => do
    (check item).mapError (·.within (.element index))
    eachElement check (index + 1) rest

end Validation

namespace Schema

mutual

def validate : Schema → Value → Except Failure Unit
  | ⟨kind, _, fields, elements⟩, value =>
    if !kind.accepts value then .error (.here (.mismatch kind))
    else
      match kind with
      | .object => validateFields fields (value.entries?.getD [])
      | .array => validateElements elements (value.items?.getD [])
      | _ => .ok ()
termination_by structural schema => schema

def validateFields : List (String × Field) → List (Value × Value) → Except Failure Unit
  | [], _ => .ok ()
  | (name, field) :: rest, entries => do
    validateMember name field (Value.lookup name entries)
    validateFields rest entries
termination_by structural fields => fields

def validateMember (name : String) : Field → Value → Except Failure Unit
  | ⟨schema, required, _, _⟩, value =>
    if value.isNull then if required then .error (.here (.missing name)) else .ok ()
    else (validate schema value).mapError (·.within (.member name))
termination_by structural field => field

def validateElements : Option Schema → List Value → Except Failure Unit
  | none, _ => .ok ()
  | some schema, items => Validation.eachElement (fun item => validate schema item) 0 items
termination_by structural elements => elements

end

end Schema
end Schematic
