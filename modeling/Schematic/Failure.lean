import Schematic.Schema
import Schematic.Report

/-!
Failures of derivation, tags, decoding and validation: the cause, and the steps that lead
from the outermost type or value to it.  The report of a failure is computed from both.
-/

namespace Schematic

inductive Cause where
  /-- A type that has no schema; for a record whose fields cannot be listed, also why. -/
  | unsupportedType (type : String) (reason : Option Report.Cause)
  /-- A record among its own ancestors. -/
  | recursiveType (type : String)
  /-- A required member that is absent or null. -/
  | missing (name : String)
  | mismatch (expected : Kind)
  | malformedJson (message : String)
  /-- A tag text that is no sequence of pairs. -/
  | malformedTag (text : String)
  /-- A tag value that is no literal; whether it holds a NUL character. -/
  | malformedTagValue (quoted : String) (hasNul : Bool)
  | unknownTagKey (key : String)
  /-- A tag value that is neither of the boolean literals. -/
  | notBoolean (text : String)
  /-- A text that is no literal of a kind, or a value that is no text at all. -/
  | invalidLiteral (kind : Kind) (text : String) (isText : Bool)
  | defaultNotSupported (kind : Kind)
  deriving DecidableEq

/-- A step towards the place of a failure. -/
inductive Step where
  /-- Into a declared field of a record. -/
  | field (name : String)
  | member (name : String)
  | element (index : Nat)
  deriving DecidableEq

namespace Step

/-- The step as an element of a path. -/
def toValue : Step → Value
  | .field name => .str name
  | .member name => .str name
  | .element index => .int index

/-- The step in front of a message. -/
def label : Step → String
  | .field name => "field " ++ name
  | .member name => name
  | .element index => "element " ++ toString index

end Step

/-- A failure, its steps listed from the outside in. -/
structure Failure where
  cause : Cause
  steps : List Step
  deriving DecidableEq

def Kind.expectation : Kind → String
  | .boolean => "expected boolean value"
  | .string => "expected a string"
  | .integer => "expected an integer"
  | .number => "expected a number"
  | .datetime => "expected a datetime in RFC3339 format"
  | .object => "expected an object"
  | .array => "expected an array"

def Cause.report : Cause → Report
  | .unsupportedType type reason => .unsupportedType type "generate" reason
  | .recursiveType type => .recursiveType type "generate"
  | .missing name => .requiredField (.str name) "validator"
  | .mismatch .datetime => .invalidDate Kind.datetime.expectation "validator"
  | .mismatch kind => .invalidType kind.expectation "validator"
  | .malformedJson message => .invalidJson message "decoding"
  | .malformedTag text => .invalidTag (.str text) "tags"
  | .malformedTagValue quoted hasNul =>
    .invalidTagValue (.str quoted) "tags"
      (some (if hasNul then .refusedValue else .malformedLiteral))
  | .unknownTagKey key => .unknownTagKey (.str key) "tags"
  | .notBoolean text => .invalidBoolean (.str text) "tags"
  | .invalidLiteral kind text isText =>
    .invalidDefault kind.name (.str text) "coercion" (if isText then some .refusedValue else none)
  | .defaultNotSupported kind => .defaultNotSupported (.str kind.name) "tags"

namespace Failure

def here (cause : Cause) : Failure :=
  ⟨cause, []⟩

def within (f : Failure) (step : Step) : Failure :=
  { f with steps := step :: f.steps }

/-- The report of a failure: that of its cause, seen from every step out. -/
def report (f : Failure) : Report :=
  f.steps.foldr (fun step r => r.within step.toValue step.label) f.cause.report

end Failure
end Schematic
