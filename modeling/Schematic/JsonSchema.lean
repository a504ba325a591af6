import Schematic.Definition

/-!
Export to JSON Schema.  A point in time is a text of the format `date-time`, the names of
required fields move to the object that holds them, and tags appear under `x-tags`.
-/

namespace Schematic
namespace JsonSchema

def dialect : String := "https://json-schema.org/draft/2020-12/schema"

/-- The members that say of what kind a value is. -/
def kindMembers : Kind → List (String × Json)
  | .datetime => [("type", .str "string"), ("format", .str "date-time")]
  | kind => [("type", .str kind.name)]

def defaultJson (default : Value) : Json :=
  .ofValue .float DateTime.rfc3339 default

/-- The members of a field beyond those of its schema. -/
def ownMembers (default : Value) (tags : List String) : List (String × Json) :=
  Schema.optionalMember "default" default.isNull (defaultJson default) ++
    Schema.optionalMember "x-tags" tags.isEmpty (.array (tags.map .str))

def requiredNames (fields : List (String × Field)) : List String :=
  (fields.filter fun (_, field) => field.required).map Prod.fst

/-- The members of an object for its declared fields, given their documents. -/
def objectMembers (fields : List (String × Field)) (properties : List (String × Json)) :
    List (String × Json) :=
  Schema.optionalMember "properties" fields.isEmpty (.object properties) ++
    Schema.optionalMember "required" (requiredNames fields).isEmpty
      (.array ((requiredNames fields).map .str))

mutual

/-- The members of the document of a schema, those of a field among them. -/
def schemaMembers : Schema → List (String × Json) → List (String × Json)
  | ⟨kind, description, fields, elements⟩, own =>
    kindMembers kind ++
      Schema.optionalMember "description" (description == "") (.str description) ++ own ++
      match kind with
      | .object => objectMembers fields (properties fields)
      | .array => itemsMember elements
      | _ => []
termination_by structural schema => schema

def fieldMembers : Field → List (String × Json)
  | ⟨schema, _, default, tags⟩ => schemaMembers schema (ownMembers default tags)
termination_by structural field => field

def properties : List (String × Field) → List (String × Json)
  | [] => []
  | (name, field) :: rest => (name, .object (fieldMembers field)) :: properties rest
termination_by structural fields => fields

def itemsMember : Option Schema → List (String × Json)
  | none => []
  | some schema => [("items", .object (schemaMembers schema []))]
termination_by structural elements => elements

end

inductive Fault where
  | unknownKind (kind : String)
  deriving DecidableEq

def Fault.message : Fault → String
  | .unknownKind kind => Text.quoted kind

def definitionMembers : Definition → Except Fault (List (String × Json))
  | .schema schema => .ok (schemaMembers schema [])
  | .field field => .ok (fieldMembers field)
  | .unchecked kind description =>
    match (Definition.unchecked kind description).schema? with
    | some schema => .ok (schemaMembers schema [])
    | none => .error (.unknownKind kind)

/-- The document of a definition, with the dialect and a title in front. -/
def document (d : Definition) (title : String) (withDialect : Bool) : Except Fault Json := do
  let members ← definitionMembers d
  return .object (
    Schema.optionalMember "$schema" (!withDialect) (.str dialect) ++
    Schema.optionalMember "title" (title == "") (.str title) ++ members)

def text (d : Definition) (title : String) (withDialect : Bool) (indent : Option Nat) :
    Except Fault String :=
  (document d title withDialect).map (·.text (.document indent))

end JsonSchema
end Schematic
