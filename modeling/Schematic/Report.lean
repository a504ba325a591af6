import Schematic.Report.Code
import Schematic.Value.Display

/-!
Reports: what is said of a failure.  A report names its code, a message, the stage it
comes from and further members; the path to the place of the failure is one of them.
-/

namespace Schematic

/-- What a failure goes back to. -/
inductive Report.Cause where
  | refusedValue
  | malformedLiteral
  | unknownName
  | malformedType
  /-- Some object, by the name of its class. -/
  | other (className : String)
  deriving DecidableEq

structure Report where
  code : ErrorCode
  /-- What is said of the failure: a text, unless its maker says it by another value. -/
  message : Value
  /-- The name of the stage that failed; empty if no stage is named. -/
  origin : Value
  /-- Further members, in the order in which they were first set. -/
  metadata : List (String × Value)
  cause : Option Report.Cause

namespace Report

/-- A report of the given members; those that are null are left out. -/
def make (code : ErrorCode) (message origin : String) (metadata : List (String × Value))
    (cause : Option Cause) : Report :=
  ⟨code, .str message, .str origin, metadata.filter (!·.2.isNull), cause⟩

def text (r : Report) : String :=
  r.message.inlineText

/-- The value of a member, null if it is not set. -/
def member (r : Report) (name : String) : Value :=
  ((r.metadata.find? fun (key, _) => key == name).map Prod.snd).getD .null

/-- What is taken for the path to the place of the failure. -/
def pathValue (r : Report) : Value :=
  if r.metadata.any (·.1 == "path") then r.member "path" else .list []

/-- The path to the place of the failure, outermost step first. -/
def path (r : Report) : List Value :=
  r.pathValue.elements?.getD []

/-- The class of what is taken for the path, if it is none. -/
def pathFault? (r : Report) : Option String :=
  match r.pathValue.elements? with
  | some _ => none
  | none => some r.pathValue.operandClass

/-- Why members of a report cannot be set: one has the name under which the report itself is
given. -/
inductive MemberFault where
  | givenTwice
  deriving DecidableEq

def MemberFault.message : MemberFault → String
  | .givenTwice => "AppError.with_metadata() got multiple values for argument 'self'"

def withMetadata (r : Report) (items : List (String × Value)) : Except MemberFault Report :=
  if items.any (·.1 == "self") then .error .givenTwice
  else
    .ok { r with
      metadata := items.foldl (fun found (name, value) => Value.putMember name value found)
        r.metadata }

/-- The same failure seen from one level up: the label stands in front of the message and
the step in front of the path. -/
def within (r : Report) (step : Value) (label : String) : Report :=
  { r with
    message := .str (label ++ ": " ++ r.text)
    metadata := Value.putMember "path" (.list (step :: r.path)) r.metadata }

/-- When and for whom a failure was reported. -/
structure Context where
  correlationId : String
  timestamp : DateTime

def toValue (r : Report) (context : Context) : Value :=
  .object [("error", .object [
    ("code", .str r.code.name),
    ("code_num", .int r.code.number),
    ("message", r.message),
    ("category", .str r.code.category),
    ("correlation_id", .str context.correlationId),
    ("timestamp", .str (String.ofList context.timestamp.iso)),
    ("metadata", .object r.metadata)])]

def toLine (r : Report) (context : Context) : String :=
  "[" ++ r.code.name ++ "] " ++ r.text ++ " (correlation_id=" ++ context.correlationId ++ ")"

/-! ### The reports of the stages -/

def unsupportedType (type origin : String) (cause : Option Cause) : Report :=
  make .unsupportedType ("cannot generate spec for type " ++ type) origin
    [("type", .str type)] cause

def recursiveType (type origin : String) : Report :=
  make .recursiveType ("cannot generate spec for recursive type " ++ type) origin
    [("type", .str type)] none

def requiredField (field : Value) (origin : String) : Report :=
  make .requiredFieldMissing (field.inlineText ++ " is required") origin
    [("field", field), ("path", .list [field])] none

def invalidType (message origin : String) : Report :=
  make .invalidType message origin [] none

def invalidDate (message origin : String) : Report :=
  make .invalidDate message origin [] none

def invalidJson (message origin : String) : Report :=
  make .invalidJson message origin [] (some .refusedValue)

def invalidTag (tag : Value) (origin : String) : Report :=
  make .invalidTag "invalid tag" origin [("tag", tag)] none

def invalidTagValue (quoted : Value) (origin : String) (cause : Option Cause) : Report :=
  make .invalidTagValue ("invalid value: " ++ quoted.inlineText) origin [("value", quoted)] cause

def unknownTagKey (key : Value) (origin : String) : Report :=
  make .unknownTagKey ("unknown tag key: \"" ++ key.inlineText ++ "\"") origin [("key", key)]
    none

def invalidBoolean (value : Value) (origin : String) : Report :=
  make .invalidBoolean ("invalid boolean: " ++ value.inlineText) origin [("value", value)] none

def invalidDefault (kind : String) (value : Value) (origin : String) (cause : Option Cause) :
    Report :=
  make .invalidDefault ("invalid " ++ kind ++ ": \"" ++ value.inlineText ++ "\"") origin
    [("value", value)] cause

def defaultNotSupported (kind : Value) (origin : String) : Report :=
  make .defaultNotSupported ("cannot set default value for " ++ kind.inlineText) origin
    [("type", kind)] none

/-- A broken precondition; its members are kept as they are. -/
def contractViolation (message origin : String) (metadata : List (String × Value)) : Report :=
  ⟨.contractViolation, .str message, .str origin, metadata, none⟩

end Report
end Schematic
