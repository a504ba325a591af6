import Schematic.Schema
import Schematic.Value.Equality

/-!
Equality of schemas: fields are compared by name without regard to their order, and
defaults as values.
-/

namespace Schematic
namespace Schema

mutual

def same : Schema → Schema → Bool
  | ⟨kind, description, fields, elements⟩, other =>
    kind == other.kind && description == other.description &&
      fields.length == other.fields.length && sameFields fields other.fields &&
      sameElements elements other.elements
termination_by structural schema => schema

/-- Every field of the first list is in the second, under the same name. -/
def sameFields : List (String × Field) → List (String × Field) → Bool
  | [], _ => true
  | (name, field) :: rest, others =>
    (match Field.find? name others with
      | some other => sameField field other
      | none => false) && sameFields rest others
termination_by structural fields => fields

def sameField : Field → Field → Bool
  | ⟨schema, required, default, tags⟩, other =>
    same schema other.schema && required == other.required && default.same other.default &&
      tags == other.tags
termination_by structural field => field

def sameElements : Option Schema → Option Schema → Bool
  | none, none => true
  | some a, some b => same a b
  | _, _ => false
termination_by structural elements => elements

end

end Schema

def Field.same (a b : Field) : Bool :=
  Schema.sameField a b

end Schematic
