import Schematic.Value

/-!
Schemas: a tree that says what shape a document has.  A schema without declared fields, or
without a schema for its elements, is open and accepts any object, or any array.
-/

namespace Schematic

/-- The kinds of value that a schema can ask for. -/
inductive Kind where
  | boolean
  | string
  | integer
  | number
  | datetime
  | object
  | array
  deriving DecidableEq, Inhabited

namespace Kind

def all : List Kind :=
  [.boolean, .string, .integer, .number, .datetime, .object, .array]

def name : Kind → String
  | .boolean => "boolean"
  | .string => "string"
  | .integer => "integer"
  | .number => "number"
  | .datetime => "datetime"
  | .object => "object"
  | .array => "array"

def ofName? (name : String) : Option Kind :=
  all.find? fun kind => kind.name == name

end Kind

/-- A member of an object: the schema of its value, and what holds of the member itself. -/
structure FieldOf (S : Type) where
  schema : S
  /-- The member has to be there, and not null. -/
  required : Bool
  /-- What is loaded in the place of an absent or null member; null if there is none. -/
  default : Value
  /-- Labels for other readers of the schema. -/
  tags : List String

/-- The shape of a value.  The names of the fields are distinct and in order of declaration;
fields count for objects only, and elements for arrays. -/
structure Schema where
  kind : Kind
  description : String
  /-- The declared members; none at all leaves an object open. -/
  fields : List (String × FieldOf Schema)
  /-- The shape of every element; without it an array is open. -/
  elements : Option Schema

abbrev Field := FieldOf Schema

instance : Inhabited Schema := ⟨⟨default, "", [], none⟩⟩

namespace Schema

def ofKind (kind : Kind) : Schema :=
  ⟨kind, "", [], none⟩

def arrayOf (elements : Schema) : Schema :=
  ⟨.array, "", [], some elements⟩

def objectOf (fields : List (String × Field)) : Schema :=
  ⟨.object, "", fields, none⟩

end Schema

/-- A member of a shape that is optional and has neither default nor labels. -/
def Schema.toField (schema : Schema) : Field :=
  ⟨schema, false, .null, []⟩

def Field.find? (name : String) (fields : List (String × Field)) : Option Field :=
  (fields.find? fun (key, _) => key == name).map Prod.snd

end Schematic
