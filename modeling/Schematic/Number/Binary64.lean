/-!
The binary64 floating-point numbers as exact values: a finite one is a signed significand
times a power of two in its only canonical form, so that equality of numbers is equality
of data.  Every conversion rounds to the nearest number and, between two equally near
ones, to the one with an even significand.
-/

namespace Schematic

namespace Binary64

/-- The least significand of 53 bits. -/
def leastFull : Nat := Nat.pow 2 52

/-- The canonical forms: at most 53 bits, and fewer than 53 only at the least exponent. -/
def Canonical (significand : Nat) (exponent : Int) : Prop :=
  significand < 2 * leastFull ∧ -1074 ≤ exponent ∧ exponent ≤ 971 ∧
    (leastFull ≤ significand ∨ exponent = -1074)

instance (significand : Nat) (exponent : Int) : Decidable (Canonical significand exponent) :=
  inferInstanceAs (Decidable (_ ∧ _))

end Binary64

inductive Binary64 where
  | nan
  | infinity (negative : Bool)
  | finite (negative : Bool) (significand : Nat) (exponent : Int)
      (canonical : Binary64.Canonical significand exponent)
  deriving DecidableEq

namespace Binary64

def zeroOf (negative : Bool) : Binary64 :=
  .finite negative 0 (-1074) (by decide)

instance : Inhabited Binary64 := ⟨zeroOf false⟩

def isFinite : Binary64 → Bool
  | .finite .. => true
  | _ => false

def isNegative : Binary64 → Bool
  | .nan => false
  | .infinity negative => negative
  | .finite negative .. => negative

/-- The quotient rounded to the nearest number, a half to the even one. -/
def roundDiv (num den : Nat) : Nat :=
  let quotient := num / den
  let rest := num % den
  if 2 * rest > den ∨ (2 * rest = den ∧ quotient % 2 = 1) then quotient + 1 else quotient

/-- `num / den * 2 ^ shift` as a fraction. -/
def scaleBinary (num den : Nat) (shift : Int) : Nat × Nat :=
  if 0 ≤ shift then (num * Nat.pow 2 shift.toNat, den)
  else (num, den * Nat.pow 2 (-shift).toNat)

/-- `num / den * 10 ^ shift` as a fraction. -/
def scaleDecimal (num den : Nat) (shift : Int) : Nat × Nat :=
  if 0 ≤ shift then (num * Nat.pow 10 shift.toNat, den)
  else (num, den * Nat.pow 10 (-shift).toNat)

/-- The integral part of the binary logarithm of a positive fraction. -/
def floorLog2 (num den : Nat) : Int :=
  let estimate : Int := (Nat.log2 num : Int) - Nat.log2 den
  let (num, den) := scaleBinary num den (-estimate)
  if num < den then estimate - 1 else estimate

/-- The number nearest to `num / den`; an infinity if the rounded significand would need
an exponent above the greatest. -/
def ofRatio (negative : Bool) (num den : Nat) : Binary64 :=
  if num = 0 then zeroOf negative
  else
    let exponent := max (floorLog2 num den - 52) (-1074)
    let (num, den) := scaleBinary num den (-exponent)
    let rounded := roundDiv num den
    let (significand, exponent) :=
      if rounded = 2 * leastFull then (leastFull, exponent + 1) else (rounded, exponent)
    if h : Canonical significand exponent then .finite negative significand exponent h
    else .infinity negative

/-- The number nearest to `digits * 10 ^ exponent`. -/
def ofDecimal (negative : Bool) (digits : Nat) (exponent : Int) : Binary64 :=
  if digits = 0 then zeroOf negative
  -- Exponents far out of range are decided without computing the power.
  else if exponent > 310 then .infinity negative
  else if (Nat.log2 digits : Int) + 1 + 3 * exponent < -1080 then zeroOf negative
  else
    let (num, den) := scaleDecimal digits 1 exponent
    ofRatio negative num den

/-- The number nearest to an integer, `none` if that is an infinity. -/
def ofInt? (i : Int) : Option Binary64 :=
  match ofRatio (decide (i < 0)) i.natAbs 1 with
  | .infinity _ => none
  | x => some x

/-- The absolute value of a finite number as a fraction. -/
def magnitude (significand : Nat) (exponent : Int) : Nat × Nat :=
  scaleBinary significand 1 exponent

def isWhole : Binary64 → Bool
  | .finite _ significand exponent _ =>
    let (num, den) := magnitude significand exponent
    num % den == 0
  | _ => false

def truncate? : Binary64 → Option Int
  | .finite negative significand exponent _ =>
    let (num, den) := magnitude significand exponent
    let whole : Int := num / den
    some (if negative then -whole else whole)
  | _ => none

/-- Equality as numbers: a NaN differs from itself and the two zeros are equal. -/
def numEq : Binary64 → Binary64 → Bool
  | .nan, _ => false
  | .finite _ 0 _ _, .finite _ 0 _ _ => true
  | x, y => x == y

def eqInt (x : Binary64) (i : Int) : Bool :=
  x.isWhole && x.truncate? == some i

def twice : Binary64 → Binary64
  | .finite negative significand exponent _ =>
    let (num, den) := magnitude significand exponent
    ofRatio negative (2 * num) den
  | x => x

end Binary64
end Schematic
