import Schematic.Issue
import Schematic.Number.Literal
import Schematic.Text.Blank
import Schematic.Text.Utf8

/-!
Lenient reading of scalars from data.  Outside of JSON bytes count as the text they encode.
Booleans have a number of words, and integers may be written with underscores between
digits and with a fraction of zeros.
-/

namespace Schematic
namespace Reading

/-- A text; outside of JSON also its bytes. -/
def text (medium : Medium) : Value → Checked String
  | .str s => .ok s
  | .bytes b =>
    match medium, Text.Utf8.decode b with
    | .json, _ => .problem .notText
    | .value, .ok s => .ok s
    | .value, .error _ => .problem .notUnicode
  | _ => .problem .notText

def trueWords : List String := ["1", "on", "t", "true", "y", "yes"]

def falseWords : List String := ["0", "off", "f", "false", "n", "no"]

/-- A boolean given as a word, in any case of its letters. -/
def booleanWord (s : String) : Checked Bool :=
  let word := String.ofList (s.toList.map Char.toLower)
  if trueWords.contains word then .ok true
  else if falseWords.contains word then .ok false
  else .problem .notBooleanWord

/-- An integer of 64 bits. -/
def isWord (i : Int) : Bool :=
  -0x8000000000000000 ≤ i && i < 0x8000000000000000

/-- The integer of a float with a whole amount between the least and the greatest integer of 64
bits, both excluded. -/
def wholeWord? (x : Binary64) : Option Int :=
  (x.truncate?.filter fun i => -0x8000000000000000 < i && isWord i).filter fun _ => x.isWhole

def booleanInt (i : Int) : Checked Bool :=
  if i = 0 then .ok false
  else if i = 1 then .ok true
  else if isWord i then .problem .notBooleanWord
  else .problem .notBoolean

/-- A boolean, one of its words, or zero or one. -/
def boolean (medium : Medium) : Value → Checked Bool
  | .bool b => .ok b
  | .str s => booleanWord s
  | .bytes b =>
    match medium, Text.Utf8.decode b with
    | .json, _ => .problem .notBoolean
    | .value, .ok s => booleanWord s
    | .value, .error _ => .problem .notBooleanWord
  | .int i => booleanInt i
  | .float x =>
    match wholeWord? x with
    | some i => booleanInt i
    | none => .problem .notBoolean
  | _ => .problem .notBoolean

/-- A text without the zeros and underscores in front of it, once there is a zero. -/
def skipZeros (before : Char) : List Char → Option (List Char)
  -- Of zeros alone the last character stays.
  | [] => some [before]
  | c :: rest =>
    if c = '0' ∨ c = '_' then skipZeros c rest
    else if ('1' ≤ c ∧ c ≤ '9') ∨ c = '-' then some (c :: rest)
    else if c = '.' then some (before :: c :: rest)
    else none

/-- The text of an integer that starts with a digit, without leading zeros. -/
def unpadded? : List Char → Option (List Char)
  | [] => none
  | c :: rest =>
    if c = '0' then skipZeros c rest
    else if '1' ≤ c ∧ c ≤ '9' then some (c :: rest)
    else none

/-- A text without a fraction of zeros. -/
def dropZeroFraction (s : List Char) : List Char :=
  match s.span (· != '.') with
  | (whole, '.' :: fraction) =>
    if fraction ≠ [] ∧ fraction.all (· == '0') then whole else s
  | _ => s

def hasDoubleUnderscore : List Char → Bool
  | '_' :: '_' :: _ => true
  | _ :: rest => hasDoubleUnderscore rest
  | [] => false

/-- A text without its underscores, if each of them stands between two other characters. -/
def dropUnderscores (s : List Char) : List Char :=
  if s.head? = some '_' ∨ s.getLast? = some '_' ∨ hasDoubleUnderscore s then s
  else s.filter (· != '_')

def maxIntegerDigits : Nat := 4300

/-- A minus sign, if there is one, and digits without leading zeros. -/
def decimalInteger (s : List Char) : Checked Int :=
  let (negative, body) := match s with
    | '-' :: rest => (true, rest)
    | s => (false, s)
  let digits := body.takeWhile Text.isAsciiDigit
  match Text.asciiDigits? digits with
  | none | some [] => .problem .notIntegerText
  | some (first :: rest) =>
    if first = 0 ∧ rest ≠ [] then .problem .notIntegerText
    -- The number of digits is checked before what follows them.
    else if rest.length ≥ maxIntegerDigits then .problem .integerTooLong
    else if body.length ≠ digits.length then .problem .notIntegerText
    else .ok (Number.signed negative (Text.digitsValue (first :: rest)))

/-- The text of an integer without what a plain one does not have: white space around it, a plus
sign, leading zeros, a fraction of zeros and underscores. -/
def plainInteger? (s : List Char) : Option (List Char) :=
  let clean (s : List Char) : Option (List Char) :=
    (unpadded? s).map fun body => dropUnderscores (dropZeroFraction body)
  match Text.trim s with
  | '-' :: rest => (clean rest).map ('-' :: ·)
  | '+' :: rest => clean rest
  | s => clean s

/-- An integer as text: a plain one, or else one that becomes plain. -/
def integerText (s : String) : Checked Int :=
  match decimalInteger s.toList with
  | .error (.issues [⟨[], .notIntegerText⟩]) =>
    match (plainInteger? s.toList).map decimalInteger with
    | some (.ok i) => .ok i
    -- A text that had to be made plain is not said to have too many digits.
    | _ => .problem .notIntegerText
  | result => result

/-- An integer, one as text, a boolean, or a float with a whole amount. -/
def integer (medium : Medium) : Value → Checked Int
  | .int i => .ok i
  | .bool b => .ok (if b then 1 else 0)
  | .float x =>
    if !x.isFinite then .problem .notFinite
    else if !x.isWhole then .problem .fraction
    else
      match wholeWord? x with
      | some i => .ok i
      | none => .problem .integerTooLong
  | .str s => integerText s
  | .bytes b =>
    match medium, Text.Utf8.decode b with
    | .json, _ => .problem .notInteger
    | .value, .ok s => integerText s
    | .value, .error _ => .problem .notIntegerText
  | _ => .problem .notInteger

end Reading
end Schematic
