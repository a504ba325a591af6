import Schematic.Number.Binary64

/-!
The shortest decimal of a floating-point number: the fewest significant digits that read
back as the number and, of the decimals with that many digits, the nearest one.  A tie goes
to the even digit.
-/

namespace Schematic
namespace Binary64

/-- The decimal digits of a number, most significant first. -/
def digitsOf (n : Nat) : List Char :=
  Nat.toDigits 10 n

/-- The exponent of the leading decimal digit of a positive fraction above `10 ^ -400`. -/
def leadingExponent (num den : Nat) : Int :=
  ((digitsOf (Nat.pow 10 400 * num / den)).length : Int) - 401

/-- The decimal with unit `10 ^ unit` that is nearest to `num / den` among the two around it
that read back as `x`; of two that are equally near, the one with an even last digit. -/
def nearestReadingBack (x : Binary64) (num den : Nat) (unit : Int) : Option Nat :=
  let (num, den) := scaleDecimal num den (-unit)
  let below := num / den
  let readsBack (digits : Nat) : Bool := ofDecimal false digits unit == x
  let belowIsNearer : Bool :=
    2 * (num % den) < den || (2 * (num % den) == den && below % 2 == 0)
  match readsBack below, readsBack (below + 1) with
  | true, true => some (if belowIsNearer then below else below + 1)
  | true, false => some below
  | false, true => some (below + 1)
  | false, false => none

/-- The first of the decimals with `count`, `count + 1`, … digits that reads back as `x`,
with the exponent of its unit; `count + fuel` digits are the last to be tried. -/
def shortestFrom (x : Binary64) (num den : Nat) (leading : Int) : Nat → Nat → Nat × Int
  | 0, count =>
    let unit := leading - count + 1
    let (num, den) := scaleDecimal num den (-unit)
    (num / den, unit)
  | fuel + 1, count =>
    let unit := leading - count + 1
    match nearestReadingBack x num den unit with
    | some digits => (digits, unit)
    | none => shortestFrom x num den leading fuel (count + 1)

/-- The shortest digits of a positive number and the exponent of the first of them. -/
def shortest (significand : Nat) (exponent : Int) (h : Canonical significand exponent) :
    List Char × Int :=
  let (num, den) := magnitude significand exponent
  let leading := leadingExponent num den
  let (digits, unit) :=
    shortestFrom (.finite false significand exponent h) num den leading 17 1
  let text := digitsOf digits
  let kept := (text.reverse.dropWhile (· == '0')).reverse
  (kept, unit + text.length - 1)

structure Layout where
  /-- The least exponent of the leading digit with positional notation; the greatest is 15. -/
  leastPositional : Int
  exponentWidth : Nat
  nan : String
  infinity : String
  negativeInfinity : String

def padLeft (width : Nat) (s : List Char) : List Char :=
  List.replicate (width - s.length) '0' ++ s

/-- Digits in positional notation, with at least one digit on either side of the point. -/
def positional (digits : List Char) (exponent : Int) : List Char :=
  if exponent < 0 then
    '0' :: '.' :: List.replicate ((-exponent).toNat - 1) '0' ++ digits
  else
    let count := exponent.toNat + 1
    let whole := digits.take count
    let fraction := digits.drop count
    whole ++ List.replicate (count - whole.length) '0' ++
      '.' :: (if fraction.isEmpty then ['0'] else fraction)

/-- Digits with one of them before the point and the exponent after an `e`. -/
def scientific (width : Nat) (digits : List Char) (exponent : Int) : List Char :=
  let mantissa :=
    match digits with
    | [] => ['0']
    | [d] => [d]
    | d :: rest => d :: '.' :: rest
  let sign := if exponent < 0 then '-' else '+'
  mantissa ++ 'e' :: sign :: padLeft width (digitsOf exponent.natAbs)

def magnitudeText (layout : Layout) (significand : Nat) (exponent : Int)
    (h : Canonical significand exponent) : List Char :=
  if significand = 0 then ['0', '.', '0']
  else
    let (digits, leading) := shortest significand exponent h
    if layout.leastPositional ≤ leading ∧ leading < 16 then positional digits leading
    else scientific layout.exponentWidth digits leading

def text (layout : Layout) : Binary64 → String
  | .nan => layout.nan
  | .infinity false => layout.infinity
  | .infinity true => layout.negativeInfinity
  | .finite negative significand exponent h =>
    let digits := magnitudeText layout significand exponent h
    String.ofList (if negative then '-' :: digits else digits)

/-- The layout of numbers in messages. -/
def Layout.plain : Layout := ⟨-4, 2, "nan", "inf", "-inf"⟩

/-- The layout of numbers in schema texts, where only finite numbers have a literal. -/
def Layout.schemaText : Layout := ⟨-5, 1, "null", "null", "null"⟩

/-- The layout of numbers in exported documents. -/
def Layout.document : Layout := ⟨-4, 2, "NaN", "Infinity", "-Infinity"⟩

end Binary64
end Schematic
