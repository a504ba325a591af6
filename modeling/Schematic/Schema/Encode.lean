import Schematic.Coercion
import Schematic.Json

/-!
Schemas as documents.  A member that holds what is assumed in its absence is left out: an
empty description, no fields, no elements, a field that is not required, no default and no
tags.  Points in time become texts, and floats that are not finite become null.
-/

namespace Schematic
namespace Schema

/-- A member of a document, left out if it says nothing. -/
def optionalMember (name : String) (absent : Bool) (json : Json) : List (String × Json) :=
  if absent then [] else [(name, json)]

def encodeNumber (x : Binary64) : Json :=
  if x.isFinite then .float x else .null

def encodeDefault (default : Value) : Json :=
  .ofValue encodeNumber DateTime.rfc3339 default

/-- The members of a field beyond those of its schema. -/
def encodeOwn (required : Bool) (default : Value) (tags : List String) :
    List (String × Json) :=
  optionalMember "required" (!required) (.bool required) ++
    optionalMember "default" default.isNull (encodeDefault default) ++
    optionalMember "tags" tags.isEmpty (.array (tags.map .str))

mutual

def encodeMembers : Schema → List (String × Json)
  | ⟨kind, description, fields, elements⟩ =>
    ("type", .str kind.name) ::
      (optionalMember "description" (description == "") (.str description) ++
        optionalMember "fields" fields.isEmpty (.object (encodeFields fields)) ++
        encodeElements elements)
termination_by structural schema => schema

def encodeFields : List (String × Field) → List (String × Json)
  | [] => []
  | (name, field) :: rest => (name, .object (encodeField field)) :: encodeFields rest
termination_by structural fields => fields

def encodeField : Field → List (String × Json)
  | ⟨schema, required, default, tags⟩ => encodeMembers schema ++ encodeOwn required default tags
termination_by structural field => field

def encodeElements : Option Schema → List (String × Json)
  | none => []
  | some schema => [("elements", .object (encodeMembers schema))]
termination_by structural elements => elements

end

def encode (schema : Schema) : Json :=
  .object schema.encodeMembers

end Schema

def Field.encode (field : Field) : Json :=
  .object (Schema.encodeField field)

end Schematic
