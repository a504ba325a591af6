import Mathlib.Algebra.Field.Rat
import Mathlib.Data.Rat.Lemmas
import Schematic.Number.Binary64

/-!
The amounts of binary64 numbers as rationals.  The test for a whole number works on the
significand and the exponent; `isWhole_iff` says that it asks for an integral amount, which no
number but a finite one has.
-/

namespace Schematic
namespace Binary64

/-- The amount of a finite number. -/
def amount? : Binary64 → Option ℚ
  | .finite negative significand exponent _ =>
    some ((if negative then -1 else 1) * (significand * 2 ^ exponent))
  | _ => none

/-- The number is an integer. -/
def IsIntegral (x : Binary64) : Prop :=
  ∃ i : ℤ, x.amount? = some (i : ℚ)

theorem magnitude_den_pos (significand : Nat) (exponent : Int) :
    0 < (magnitude significand exponent).2 := by
  unfold magnitude scaleBinary
  split
  · exact Nat.one_pos
  · exact Nat.mul_pos Nat.one_pos (Nat.two_pow_pos _)

/-- The fraction that a significand and an exponent stand for. -/
theorem magnitude_div (significand : Nat) (exponent : Int) :
    ((magnitude significand exponent).1 : ℚ) / (magnitude significand exponent).2 =
      significand * 2 ^ exponent := by
  unfold magnitude scaleBinary
  split
  next h =>
    obtain ⟨n, rfl⟩ := Int.eq_ofNat_of_zero_le h
    show ((significand * 2 ^ n : Nat) : ℚ) / (1 : Nat) = _
    push_cast
    rw [div_one, zpow_natCast]
  next h =>
    obtain ⟨n, hn⟩ := Int.eq_ofNat_of_zero_le (show 0 ≤ -exponent by omega)
    have hexp : exponent = -(n : Int) := by omega
    subst hexp
    show (significand : ℚ) / ((1 * 2 ^ (- -(n : Int)).toNat : Nat) : ℚ) = _
    rw [show (- -(n : Int)).toNat = n by omega, one_mul]
    push_cast
    rw [zpow_neg, zpow_natCast, div_eq_mul_inv]

/-- A quotient of natural numbers is an integer exactly if nothing is left over. -/
theorem div_integral_iff {num den : Nat} (hden : 0 < den) :
    (∃ i : ℤ, (num : ℚ) / den = i) ↔ num % den = 0 := by
  have hne : (den : ℚ) ≠ 0 := by exact_mod_cast hden.ne'
  constructor
  · rintro ⟨i, hi⟩
    have hmul : (num : ℤ) = i * den := by
      have : (num : ℚ) = i * den := by rw [← hi, div_mul_cancel₀ _ hne]
      exact_mod_cast this
    have hdvd : (den : ℤ) ∣ num := ⟨i, by rw [hmul, mul_comm]⟩
    exact Nat.mod_eq_zero_of_dvd (Int.natCast_dvd_natCast.mp hdvd)
  · intro h
    obtain ⟨k, rfl⟩ := Nat.dvd_of_mod_eq_zero h
    refine ⟨k, ?_⟩
    push_cast
    rw [mul_div_cancel_left₀ _ hne]

/-- The whole numbers are the finite ones with an integral amount. -/
theorem isWhole_iff (x : Binary64) : x.isWhole = true ↔ x.IsIntegral := by
  cases x with
  | nan => simp [isWhole, IsIntegral, amount?]
  | infinity negative => simp [isWhole, IsIntegral, amount?]
  | finite negative significand exponent canonical =>
    have hwhole := @div_integral_iff (magnitude significand exponent).1 _
      (magnitude_den_pos significand exponent)
    rw [magnitude_div] at hwhole
    have hsign : (∃ i : ℤ, (if negative then -1 else 1) * ((significand : ℚ) * 2 ^ exponent) = i) ↔
        ∃ i : ℤ, (significand : ℚ) * 2 ^ exponent = i := by
      cases negative
      · simp
      · constructor
        · rintro ⟨i, hi⟩
          exact ⟨-i, by push_cast; rw [← hi]; simp⟩
        · rintro ⟨i, hi⟩
          exact ⟨-i, by push_cast; rw [← hi]; simp⟩
    show ((magnitude significand exponent).1 % (magnitude significand exponent).2 == 0) = true ↔
      ∃ i : ℤ, some _ = some (i : ℚ)
    simp only [beq_iff_eq, Option.some.injEq]
    rw [hsign, hwhole]

theorem truncate?_isSome_of_isWhole {x : Binary64} (h : x.isWhole = true) :
    ∃ i, x.truncate? = some i := by
  cases x with
  | nan => cases h
  | infinity negative => cases h
  | finite negative significand exponent canonical => exact ⟨_, rfl⟩

end Binary64
end Schematic
