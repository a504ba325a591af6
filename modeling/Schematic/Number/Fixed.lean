import Schematic.Number.Shortest

/-!
Decimals of a floating-point number with a given number of places.  The exact value is rounded
to the places asked for, a half to the even neighbour.  A number can be written with all its
places, with an exponent, or in whichever of the two ways suits its size.
-/

namespace Schematic
namespace Binary64

/-- The ways to write a number with a given precision. -/
inductive DecimalForm where
  /-- The precision counts the digits after the point. -/
  | fixed
  /-- One digit before the point and an exponent; the precision counts the digits after it. -/
  | scientific
  /-- The precision counts all digits, and the exponent decides between the other two. -/
  | general
  deriving DecidableEq

/-- A text of digits cut before its last `places` digits. -/
def splitDigits (places : Nat) (digits : List Char) : List Char × List Char :=
  let digits := padLeft (places + 1) digits
  (digits.take (digits.length - places), digits.drop (digits.length - places))

/-- Whole digits and a fraction; the point is left out if there is no fraction, unless it is to
be kept. -/
def joinPoint (keepPoint : Bool) (whole fraction : List Char) : List Char :=
  if fraction.isEmpty && !keepPoint then whole else whole ++ '.' :: fraction

/-- The digits of a fraction `num / den` rounded to a number of places. -/
def fixedParts (num den places : Nat) : List Char × List Char :=
  splitDigits places (digitsOf (roundDiv (num * Nat.pow 10 places) den))

/-- A positive fraction rounded to `count + 1` digits: the digits, and the exponent of the first
of them. -/
def significantDigits (num den count : Nat) : List Char × Int :=
  let leading := leadingExponent num den
  let (scaledNum, scaledDen) := scaleDecimal num den (count - leading)
  let digits := digitsOf (roundDiv scaledNum scaledDen)
  if digits.length > count + 1 then (digits.take (count + 1), leading + 1)
  else (digits, leading)

def leadingDigits (num den count : Nat) : List Char × Int :=
  if num = 0 then (List.replicate (count + 1) '0', 0) else significantDigits num den count

/-- An exponent of at least two digits after its sign. -/
def exponentText (exponent : Int) : List Char :=
  'e' :: (if exponent < 0 then '-' else '+') :: padLeft 2 (digitsOf exponent.natAbs)

def withExponent (keepPoint : Bool) (digits : List Char) (exponent : Int) : List Char :=
  joinPoint keepPoint (digits.take 1) (digits.drop 1) ++ exponentText exponent

def trimZeros (digits : List Char) : List Char :=
  (digits.reverse.dropWhile (· == '0')).reverse

/-- A fraction with `precision` digits, in the way that suits its size. -/
def generalText (keepPoint : Bool) (num den precision : Nat) : List Char :=
  let precision := max precision 1
  let (digits, exponent) := leadingDigits num den (precision - 1)
  let cut (fraction : List Char) : List Char :=
    if keepPoint then fraction else trimZeros fraction
  if exponent < -4 ∨ exponent ≥ precision then
    withExponent keepPoint (digits.take 1 ++ cut (digits.drop 1)) exponent
  else if exponent < 0 then
    joinPoint keepPoint ['0']
      (cut (List.replicate ((-exponent).toNat - 1) '0' ++ digits))
  else
    joinPoint keepPoint (digits.take (exponent.toNat + 1)) (cut (digits.drop (exponent.toNat + 1)))

/-- The text of the absolute value of a number in a form.  The point is kept, and with it the
zeros of the general form, if that is asked for. -/
def decimalText (form : DecimalForm) (precision : Nat) (keepPoint : Bool) :
    Binary64 → List Char
  | .nan => "nan".toList
  | .infinity _ => "inf".toList
  | .finite _ significand exponent _ =>
    let (num, den) := magnitude significand exponent
    match form with
    | .fixed =>
      let (whole, fraction) := fixedParts num den precision
      joinPoint keepPoint whole fraction
    | .scientific =>
      let (digits, exponent) := leadingDigits num den precision
      withExponent keepPoint digits exponent
    | .general => generalText keepPoint num den precision

end Binary64
end Schematic
