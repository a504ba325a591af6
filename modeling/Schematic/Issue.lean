import Schematic.Value

/-!
Problems of what is given as data: a document of a schema, or a setting.  Reading goes on
after a problem, so that all of them are reported together, each with the way to it.
-/

namespace Schematic

/-- What a document is given as. -/
inductive Medium where
  | json
  | value
  deriving DecidableEq

/-- What a document is read as. -/
inductive Target where
  | schema
  | field
  deriving DecidableEq

def Target.name : Target → String
  | .schema => "Spec"
  | .field => "Field"

inductive Problem where
  | malformedJson (message : String)
  | notObject (target : Target)
  | missing
  | unknownKind
  | notText
  | notUnicode
  | notMapping
  | notArray
  | notBooleanWord
  | notBoolean
  | notInteger
  | notIntegerText
  | integerTooLong
  | fraction
  | notFinite
  /-- A definition inside too many others. -/
  | tooDeep
  | frozen
  deriving DecidableEq

namespace Problem

/-- The sort of a problem. -/
def code : Problem → String
  | .malformedJson _ => "json_invalid"
  | .notObject _ => "model_type"
  | .missing => "missing"
  | .unknownKind => "enum"
  | .notText => "string_type"
  | .notUnicode => "string_unicode"
  | .notMapping => "dict_type"
  | .notArray => "tuple_type"
  | .notBooleanWord => "bool_parsing"
  | .notBoolean => "bool_type"
  | .notInteger => "int_type"
  | .notIntegerText => "int_parsing"
  | .integerTooLong => "int_parsing_size"
  | .fraction => "int_from_float"
  | .notFinite => "finite_number"
  | .tooDeep => "recursion_depth_exceeded"
  | .frozen => "frozen_instance"

def message (medium : Medium) : Problem → String
  | .malformedJson message => "Invalid JSON: " ++ message
  | .notObject target =>
    match medium with
    | .json => "Input should be an object"
    | .value => "Input should be a valid dictionary or instance of " ++ target.name
  | .missing => "Field required"
  | .unknownKind =>
    "Input should be 'boolean', 'string', 'integer', 'number', 'datetime', 'object' or 'array'"
  | .notText => "Input should be a valid string"
  | .notUnicode =>
    "Input should be a valid string, unable to parse raw data as a unicode string"
  | .notMapping =>
    match medium with
    | .json => "Input should be an object"
    | .value => "Input should be a valid dictionary"
  | .notArray =>
    match medium with
    | .json => "Input should be a valid array"
    | .value => "Input should be a valid tuple"
  | .notBooleanWord => "Input should be a valid boolean, unable to interpret input"
  | .notBoolean => "Input should be a valid boolean"
  | .notInteger => "Input should be a valid integer"
  | .notIntegerText =>
    "Input should be a valid integer, unable to parse string as an integer"
  | .integerTooLong =>
    "Unable to parse input string as an integer, exceeded maximum size"
  | .fraction => "Input should be a valid integer, got a number with a fractional part"
  | .notFinite => "Input should be a finite number"
  | .tooDeep => "Recursion error - maximum validation depth exceeded"
  | .frozen => "Instance is frozen"

end Problem

inductive Place where
  | name (s : String)
  | index (i : Int)
  deriving DecidableEq

/-- A problem and the way to it, from the outside in. -/
structure Issue where
  places : List Place
  problem : Problem
  deriving DecidableEq

inductive Refusal where
  | issues (issues : List Issue)
  /-- An integer default beyond the range of floats. -/
  | defaultTooLarge
  deriving DecidableEq

/-- A reading that goes on after problems and collects them all. -/
abbrev Checked (α : Type) := Except Refusal α

namespace Checked

def problem {α : Type} (p : Problem) : Checked α :=
  .error (.issues [⟨[], p⟩])

/-- The problems as seen from one step further out. -/
def under {α : Type} (place : Place) (x : Checked α) : Checked α :=
  x.mapError fun
    | .issues issues => .issues (issues.map fun i => { i with places := place :: i.places })
    | .defaultTooLarge => .defaultTooLarge

/-- Two readings in order; the problems of both are kept. -/
def ap {α β : Type} (f : Checked (α → β)) (x : Checked α) : Checked β :=
  match f, x with
  | .ok f, .ok a => .ok (f a)
  | .error (.issues is), .error (.issues js) => .error (.issues (is ++ js))
  | .error (.issues is), .ok _ => .error (.issues is)
  | .ok _, .error (.issues js) => .error (.issues js)
  | .error .defaultTooLarge, _ => .error .defaultTooLarge
  | _, .error .defaultTooLarge => .error .defaultTooLarge

def all {α : Type} : List (Checked α) → Checked (List α)
  | [] => .ok []
  | x :: rest => ap (ap (.ok List.cons) x) (all rest)

end Checked

end Schematic
