import Schematic.Number.Binary64
import Schematic.Text.Digit
import Schematic.Text.Blank

/-!
Number literals in texts: integers in base ten, and floating-point literals with an
optional fraction and exponent, in decimal digits of any script.
-/

namespace Schematic
namespace Number

def splitSign : List Char → Bool × List Char
  | '-' :: rest => (true, rest)
  | '+' :: rest => (false, rest)
  | s => (false, s)

/-- An optional sign and ASCII digits. -/
def readInt? (s : List Char) : Option (Bool × List Nat) :=
  let (negative, body) := splitSign s
  if body.isEmpty then none else (Text.asciiDigits? body).map fun digits => (negative, digits)

def signed (negative : Bool) (n : Nat) : Int :=
  if negative then -(n : Int) else n

def spanDigits (s : List Char) : List Nat × List Char :=
  (s.takeWhile (fun c => (Text.decimalDigit? c).isSome) |>.filterMap Text.decimalDigit?,
    s.dropWhile (fun c => (Text.decimalDigit? c).isSome))

/-- The exponent part of a literal: nothing, or an `e` with a signed integer. -/
def readExponent? : List Char → Option Int
  | [] => some 0
  | c :: rest =>
    if c = 'e' ∨ c = 'E' then
      let (negative, body) := splitSign rest
      let (digits, rest) := spanDigits body
      if digits.isEmpty || !rest.isEmpty then none
      else some (signed negative (Text.digitsValue digits))
    else none

/-- A fraction part at the start of a text: its digits, and what follows. -/
def spanFraction : List Char → List Nat × List Char
  | '.' :: rest => spanDigits rest
  | s => ([], s)

/-- The number that an unsigned decimal literal denotes, rounded to the nearest. -/
def readMagnitude? (negative : Bool) (s : List Char) : Option Binary64 := do
  let (whole, rest) := spanDigits s
  let (fraction, rest) := spanFraction rest
  let exponent ← readExponent? rest
  if whole.isEmpty && fraction.isEmpty then none
  else
    some (.ofDecimal negative (Text.digitsValue (whole ++ fraction))
      (exponent - fraction.length))

/-- A floating-point literal: a decimal one, or the name of an infinity or of NaN in any
case. -/
def readFloat? (s : List Char) : Option Binary64 :=
  let (negative, body) := splitSign s
  let name := String.ofList (body.map Char.toLower)
  if name = "inf" ∨ name = "infinity" then some (.infinity negative)
  else if name = "nan" then some .nan
  else readMagnitude? negative body

/-- A text without the underscores in it, if each of them stands between two digits. -/
def unseparated? : List Char → Option (List Char)
  | [] => some []
  | a :: '_' :: b :: rest =>
    if (Text.decimalDigit? a).isSome && (Text.decimalDigit? b).isSome then
      (unseparated? (b :: rest)).map (a :: ·)
    else none
  | a :: rest => if a == '_' then none else (unseparated? rest).map (a :: ·)

/-- An integer as it is written freely: with white space around it, digits of any script, and
underscores between them. -/
def readFreeInt? (s : List Char) : Option (Bool × List Nat) :=
  let (negative, body) := splitSign (Text.trim s)
  match unseparated? body with
  | none | some [] => none
  | some body => (body.mapM Text.decimalDigit?).map fun digits => (negative, digits)

/-- A floating-point literal with white space around it and underscores in it. -/
def readFreeFloat? (s : List Char) : Option Binary64 :=
  (unseparated? (Text.trim s)).bind readFloat?

end Number
end Schematic
