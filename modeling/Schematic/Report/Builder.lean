import Schematic.Report
import Schematic.TypeExpr.Display

/-!
Reports made by name.  A builder takes some arguments by place or by name and others by name
alone, and one that takes any names puts the others among the members of the report.
-/

namespace Schematic
namespace Report

inductive Builder where
  | schemaError
  | unsupportedType
  | recursiveType
  | validationError
  | requiredField
  | invalidType
  | invalidDate
  | invalidJson
  | tagError
  | invalidTag
  | invalidTagValue
  | unknownTagKey
  | invalidBoolean
  | invalidDefault
  | defaultNotSupported
  | contractViolation
  deriving DecidableEq

structure Signature where
  /-- Those that have to be given. -/
  required : List String
  /-- Those that can be given by place, with what holds for them otherwise. -/
  optional : List (String × Value)
  /-- Those that can only be given by name, with what holds for them otherwise. -/
  named : List (String × Value)
  /-- Further names are allowed. -/
  isOpen : Bool

inductive CallFault where
  | missing (builder : String) (parameters : List String)
  | unexpected (builder name : String)
  /-- An argument given by place and by name. -/
  | repeated (builder name : String)
  /-- More arguments by place than parameters, of which `least` have to be given and `most` can
  be; `named` of the others were given by name. -/
  | tooMany (builder : String) (least most given named : Nat)
  | notCode (className : String)
  | unset (u : Value.UnsetField)
  deriving DecidableEq

/-- The ending of a noun that is counted. -/
def pluralEnding (n : Nat) : String :=
  if n = 1 then "" else "s"

def CallFault.message : CallFault → String
  | .missing builder parameters =>
    builder ++ "() missing " ++ toString parameters.length ++ " required positional argument" ++
      pluralEnding parameters.length ++ ": " ++ Text.enumerated (parameters.map Text.quoted)
  | .unexpected builder name =>
    builder ++ "() got an unexpected keyword argument " ++ Text.quoted name
  | .repeated builder name =>
    builder ++ "() got multiple values for argument " ++ Text.quoted name
  | .tooMany builder least most given named =>
    let expected :=
      if least = most then toString most ++ " positional argument" ++ pluralEnding most
      else "from " ++ toString least ++ " to " ++ toString most ++ " positional arguments"
    let note :=
      if named = 0 then ""
      else
        " positional argument" ++ pluralEnding given ++ " (and " ++ toString named ++
          " keyword-only argument" ++ pluralEnding named ++ ")"
    builder ++ "() takes " ++ expected ++ " but " ++ toString given ++ note ++
      (if given = 1 && named = 0 then " was given" else " were given")
  | .notCode className => Text.quoted className ++ " object has no attribute 'name'"
  | .unset u => u.message

namespace Builder

def all : List Builder :=
  [.schemaError, .unsupportedType, .recursiveType, .validationError, .requiredField,
    .invalidType, .invalidDate, .invalidJson, .tagError, .invalidTag, .invalidTagValue,
    .unknownTagKey, .invalidBoolean, .invalidDefault, .defaultNotSupported, .contractViolation]

def name : Builder → String
  | .schemaError => "schema_error"
  | .unsupportedType => "unsupported_type"
  | .recursiveType => "recursive_type"
  | .validationError => "validation_error"
  | .requiredField => "required_field"
  | .invalidType => "invalid_type"
  | .invalidDate => "invalid_date"
  | .invalidJson => "invalid_json"
  | .tagError => "tag_error"
  | .invalidTag => "invalid_tag"
  | .invalidTagValue => "invalid_tag_value"
  | .unknownTagKey => "unknown_tag_key"
  | .invalidBoolean => "invalid_boolean"
  | .invalidDefault => "invalid_default"
  | .defaultNotSupported => "default_not_supported"
  | .contractViolation => "contract_violation"

def ofName? (name : String) : Option Builder :=
  all.find? (·.name == name)

def code : Builder → ErrorCode
  | .schemaError => .schemaGeneric
  | .unsupportedType => .unsupportedType
  | .recursiveType => .recursiveType
  | .validationError => .validationGeneric
  | .requiredField => .requiredFieldMissing
  | .invalidType => .invalidType
  | .invalidDate => .invalidDate
  | .invalidJson => .invalidJson
  | .tagError => .tagGeneric
  | .invalidTag => .invalidTag
  | .invalidTagValue => .invalidTagValue
  | .unknownTagKey => .unknownTagKey
  | .invalidBoolean => .invalidBoolean
  | .invalidDefault => .invalidDefault
  | .defaultNotSupported => .defaultNotSupported
  | .contractViolation => .contractViolation

def messageParameter : String := "message"

def originParameter : String × Value := ("origin", .str "")

def causeParameter : String × Value := ("cause", .null)

def signature : Builder → Signature
  | .schemaError | .tagError =>
    ⟨[messageParameter], [], [("code", .null), originParameter, causeParameter], true⟩
  | .validationError =>
    ⟨[messageParameter], [], [("code", .null), ("field", .null), originParameter], true⟩
  | .unsupportedType => ⟨["tp"], [originParameter, causeParameter], [], false⟩
  | .recursiveType => ⟨["tp"], [originParameter], [], false⟩
  | .requiredField => ⟨["field"], [originParameter], [], false⟩
  | .invalidType | .invalidDate => ⟨[messageParameter], [originParameter], [], false⟩
  | .invalidJson => ⟨["exc"], [originParameter], [], false⟩
  | .invalidTag => ⟨["tag"], [originParameter], [], false⟩
  | .invalidTagValue => ⟨["quoted"], [originParameter, causeParameter], [], false⟩
  | .unknownTagKey => ⟨["key"], [originParameter], [], false⟩
  | .invalidBoolean => ⟨["value"], [originParameter], [], false⟩
  | .invalidDefault => ⟨["kind", "value"], [originParameter, causeParameter], [], false⟩
  | .defaultNotSupported => ⟨["type_value"], [originParameter], [], false⟩
  | .contractViolation => ⟨[messageParameter], [originParameter], [], true⟩

end Builder

/-! ### Arguments -/

/-- What is given for a call: arguments by the names of their parameters, and further members. -/
structure Given where
  arguments : List (String × TypeExpr)
  members : List (String × TypeExpr)

namespace Signature

def places (s : Signature) : List String :=
  s.required ++ s.optional.map Prod.fst

/-- Arguments by name put to those by place. -/
def putNamed (builder : String) (s : Signature) :
    Given → List (String × TypeExpr) → Except CallFault Given
  | given, [] => .ok given
  | given, (name, value) :: rest =>
    if s.places.contains name || s.named.any (·.1 == name) then
      if given.arguments.any (·.1 == name) then .error (.repeated builder name)
      else
        putNamed builder s { given with arguments := given.arguments ++ [(name, value)] } rest
    else if s.isOpen then
      putNamed builder s { given with members := given.members ++ [(name, value)] } rest
    else .error (.unexpected builder name)

/-- The arguments of a call. -/
def bind (builder : String) (s : Signature) (positional : List TypeExpr)
    (named : List (String × TypeExpr)) : Except CallFault Given := do
  -- Arguments by name are looked at first, then the number of those by place, and then what is
  -- missing.
  let given ← s.putNamed builder ⟨s.places.zip positional, []⟩ named
  let namedCount := (s.named.filter fun (name, _) => given.arguments.any (·.1 == name)).length
  if positional.length > s.places.length then
    .error (.tooMany builder s.required.length s.places.length positional.length namedCount)
  else
    match s.required.filter fun name => !given.arguments.any (·.1 == name) with
    | [] => return given
    | missing => .error (.missing builder missing)

end Signature

namespace Given

/-- The argument for a parameter, or what holds for it otherwise. -/
def argument (given : Given) (s : Signature) (name : String) : TypeExpr :=
  match given.arguments.find? (·.1 == name) with
  | some (_, value) => value
  | none => .value (((s.optional ++ s.named).find? (·.1 == name)).elim .null Prod.snd)

end Given

/-! ### Reports -/

def codeClass : String := "ErrorCode"

def codeArgument (code : ErrorCode) : TypeExpr :=
  .value (.foreign codeClass code.name)

def refusedArgument (text : String) : TypeExpr :=
  .value (.foreign "ValueError" ("ValueError(" ++ Text.quoted text ++ ")"))

/-- The code that an argument stands for. -/
def codeOf (absent : ErrorCode) : Value → Except CallFault ErrorCode
  | .null => .ok absent
  | .foreign className shown =>
    match ErrorCode.ofName? shown with
    | some code => .ok code
    | none => .error (.notCode className)
  | value => .error (.notCode value.operandClass)

def causeOf : Value → Option Cause
  | .null => none
  | .foreign "ValueError" _ => some .refusedValue
  | value => some (.other value.className)

/-- An argument as it appears in a sentence. -/
def inlined (argument : TypeExpr) : Except CallFault String :=
  match argument.unset? with
  | some u => .error (.unset u)
  | none => .ok argument.toValue.inlineText

def typeNamed (argument : TypeExpr) : Except CallFault String :=
  match argument.unset? with
  | some u => .error (.unset u)
  | none => .ok argument.display

/-- The report of a builder without its origin, its cause and a message that is an argument. -/
def Builder.report (builder : Builder) (argument : String → TypeExpr)
    (members : List (String × Value)) : Except CallFault Report := do
  match builder with
  | .schemaError | .tagError =>
    return .make (← codeOf builder.code (argument "code").toValue) "" "" members none
  | .validationError =>
    let code ← codeOf builder.code (argument "code").toValue
    return .make code "" "" (("field", (argument "field").toValue) :: members) none
  | .unsupportedType => return .unsupportedType (← typeNamed (argument "tp")) "" none
  | .recursiveType => return .recursiveType (← typeNamed (argument "tp")) ""
  | .requiredField =>
    let _ ← inlined (argument "field")
    return .requiredField (argument "field").toValue ""
  | .invalidType => return .invalidType "" ""
  | .invalidDate => return .invalidDate "" ""
  | .invalidJson => return .invalidJson (← inlined (argument "exc")) ""
  | .invalidTag => return .invalidTag (argument "tag").toValue ""
  | .invalidTagValue =>
    let _ ← inlined (argument "quoted")
    return .invalidTagValue (argument "quoted").toValue "" none
  | .unknownTagKey =>
    let _ ← inlined (argument "key")
    return .unknownTagKey (argument "key").toValue ""
  | .invalidBoolean =>
    let _ ← inlined (argument "value")
    return .invalidBoolean (argument "value").toValue ""
  | .invalidDefault =>
    let kind ← inlined (argument "kind")
    let _ ← inlined (argument "value")
    return .invalidDefault kind (argument "value").toValue "" none
  | .defaultNotSupported =>
    let _ ← inlined (argument "type_value")
    return .defaultNotSupported (argument "type_value").toValue ""
  | .contractViolation => return .contractViolation "" "" members

/-- The report that a builder makes of arguments by place and by name. -/
def Builder.call (builder : Builder) (positional : List TypeExpr)
    (named : List (String × TypeExpr)) : Except CallFault Report := do
  let s := builder.signature
  let given ← s.bind builder.name positional named
  let argument := given.argument s
  let r ← builder.report argument (given.members.map fun (name, value) => (name, value.toValue))
  return { r with
    message :=
      if s.required.contains messageParameter then (argument messageParameter).toValue
      else r.message
    origin := (argument "origin").toValue
    cause := if r.cause.isSome then r.cause else causeOf (argument "cause").toValue }

end Report
end Schematic
