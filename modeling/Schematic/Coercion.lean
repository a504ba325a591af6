import Schematic.Failure
import Schematic.Number.Literal
import Schematic.Time.Rfc3339

/-!
Strict literals of the scalar kinds.  Nothing is trimmed and each value has few
spellings: `true` and `false`, integers in base ten, finite floating-point literals, and
RFC 3339 timestamps.
-/

namespace Schematic

/-- The kinds whose values can be written as literals. -/
inductive Coercion where
  | boolean
  | integer
  | number
  | datetime
  deriving DecidableEq

namespace Coercion

/-- Why a text is no literal.  What is no boolean or no number is given as it is shown. -/
inductive Error where
  | notBoolean (shown : String)
  | notInteger (text : String)
  | tooManyDigits (count : Nat)
  | notNumber (shown : String)
  | unreadableNumber (text : String)
  | outOfRange (text : String)
  | notDateTime (text : String)
  | offsetOutOfRange (offset : String)
  | field (error : Time.FieldError)
  deriving DecidableEq

/-- The most digits of an integer literal. -/
def maxDigits : Nat := 4300

def Error.message : Error → String
  | .notBoolean shown => "not a boolean literal: " ++ shown
  | .notInteger text => "not a base-10 integer: " ++ Text.quoted text
  | .tooManyDigits count =>
    "Exceeds the limit (4300 digits) for integer string conversion: value has " ++
      toString count ++ " digits; use sys.set_int_max_str_digits() to increase the limit"
  | .notNumber shown => "not a number: " ++ shown
  | .unreadableNumber text => "could not convert string to float: " ++ Text.quoted text
  | .outOfRange text => "number out of range: " ++ Text.quoted text
  | .notDateTime text => "not an RFC 3339 datetime: " ++ Text.quoted text
  | .offsetOutOfRange offset => "offset out of range: " ++ offset
  | .field error => error.message

def parseBool (text : String) : Except Error Bool :=
  if text = "true" then .ok true
  else if text = "false" then .ok false
  else .error (.notBoolean (Text.quoted text))

/-- An integer: an optional sign and ASCII digits. -/
def parseInt (text : String) : Except Error Int :=
  match Number.readInt? text.toList with
  | none => .error (.notInteger text)
  | some (negative, digits) =>
    if digits.length > maxDigits then .error (.tooManyDigits digits.length)
    else .ok (Number.signed negative (Text.digitsValue digits))

/-- A finite number; white space around it and digit separators are refused. -/
def parseFloat (text : String) : Except Error Binary64 :=
  let s := text.toList
  if s = [] ∨ Text.strip s ≠ s ∨ '_' ∈ s then .error (.notNumber (Text.quoted text))
  else
    match Number.readFloat? s with
    | none => .error (.unreadableNumber text)
    | some x => if x.isFinite then .ok x else .error (.outOfRange text)

def parseDateTime (text : String) : Except Error DateTime :=
  (Time.Rfc3339.parse text.toList).mapError fun
    | .form => .notDateTime text
    | .offset offset => .offsetOutOfRange offset
    | .field error => .field error

def kind : Coercion → Kind
  | .boolean => .boolean
  | .integer => .integer
  | .number => .number
  | .datetime => .datetime

def ofKind? : Kind → Option Coercion
  | .boolean => some .boolean
  | .integer => some .integer
  | .number => some .number
  | .datetime => some .datetime
  | _ => none

def parse : Coercion → String → Except Error Value
  | .boolean, text => (parseBool text).map .bool
  | .integer, text => (parseInt text).map .int
  | .number, text => (parseFloat text).map .float
  | .datetime, text => (parseDateTime text).map .datetime

def accepts (rule : Coercion) : Value → Bool
  | .str text => (rule.parse text).isOk
  | _ => false

/-- The value of a literal given as a value. -/
def coerce (rule : Coercion) : Value → Except Cause Value
  | .str text => (rule.parse text).mapError fun _ => .invalidLiteral rule.kind text true
  | value => .error (.invalidLiteral rule.kind value.display false)

/-! ### Literals that are no texts -/

/-- Why something that is no text cannot be read as a literal. -/
inductive Misuse where
  | refused (e : Error)
  /-- A pattern of characters is looked for in it. -/
  | notText (className : String)
  /-- A pattern of characters is looked for in bytes. -/
  | bytesPattern
  /-- A character is looked for in bytes. -/
  | bytesMember
  | noMember (className name : String)
  /-- A number is asked for. -/
  | notReal (className : String)
  /-- An integer beyond the range of floats. -/
  | tooLarge
  | unset (u : Value.UnsetField)
  deriving DecidableEq

def Misuse.message : Misuse → String
  | .refused e => e.message
  | .notText className => "expected string or bytes-like object, got " ++ Text.quoted className
  | .bytesPattern => "cannot use a string pattern on a bytes-like object"
  | .bytesMember => "a bytes-like object is required, not 'str'"
  | .noMember className name =>
    Text.quoted className ++ " object has no attribute " ++ Text.quoted name
  | .notReal className => "must be real number, not " ++ className
  | .tooLarge => "int too large to convert to float"
  | .unset u => u.message

/-- Something that is refused as it is shown. -/
def refuse (error : String → Error) (value : Value) : Misuse :=
  match value.unset? with
  | some u => .unset u
  | none => .refused (error value.display)

/-- A search for a pattern of characters in something that is no text. -/
def searchMisuse : Value → Misuse
  | .bytes _ => .bytesPattern
  | value => .notText value.operandClass

def isBlankByte (b : UInt8) : Bool :=
  b == 0x20 || (0x09 ≤ b && b ≤ 0x0D)

/-- Why something that is no text is no number. -/
def numberMisuse (value : Value) : Misuse :=
  if !value.isTruthy then refuse .notNumber value
  else
    match value with
    | .bytes b =>
      if b.head?.any isBlankByte || b.getLast?.any isBlankByte then refuse .notNumber value
      else .bytesMember
    | value => .noMember value.operandClass "strip"

/-- Why something that is no text is no literal of a kind. -/
def misuse (rule : Coercion) (value : Value) : Misuse :=
  match rule with
  | .boolean => refuse .notBoolean value
  | .integer | .datetime => searchMisuse value
  | .number => numberMisuse value

def read (rule : Coercion) : Value → Except Misuse Value
  | .str text => (rule.parse text).mapError .refused
  | value => .error (rule.misuse value)

end Coercion

/-- The text by which a point in time is accepted back. -/
def DateTime.rfc3339 (d : DateTime) : String :=
  String.ofList (Time.Rfc3339.format d)

namespace Coercion

/-- Whether something that ought to be a float is finite and has no fraction. -/
def isWhole : Value → Except Misuse Bool
  | .float x => .ok x.isWhole
  | .bool _ => .error (.noMember "bool" "is_integer")
  | .int i =>
    match Binary64.ofInt? i with
    | some _ => .error (.noMember "int" "is_integer")
    | none => .error .tooLarge
  | value => .error (.notReal value.operandClass)

/-- The text by which something that ought to be a point in time is accepted back. -/
def timestamp : Value → Except Misuse String
  | .datetime d => .ok d.rfc3339
  | value => .error (.noMember value.operandClass "tzinfo")

end Coercion

end Schematic
