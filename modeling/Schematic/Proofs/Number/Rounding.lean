import Mathlib.Algebra.Order.Field.Power
import Mathlib.Algebra.Order.Floor.Semifield
import Mathlib.Data.Int.Log
import Mathlib.Data.Rat.Floor
import Mathlib.Tactic.Linarith
import Mathlib.Tactic.Positivity
import Schematic.Proofs.Number.Amount

/-!
Rounding to binary64, on rationals.  A fraction and a decimal are rounded by their amounts alone,
however they are written: `ofRatio_eq` and `ofDecimal_eq`.  `ofRat_of_near` says which amounts are
rounded to a given number: all that are nearer to it than half the distance to its neighbours.
-/

namespace Schematic
namespace Binary64

/-! ## Fractions -/

theorem scaleBinary_den_pos {num den : Nat} (h : 0 < den) (shift : Int) :
    0 < (scaleBinary num den shift).2 := by
  unfold scaleBinary
  split
  · exact h
  · exact Nat.mul_pos h (Nat.two_pow_pos _)

theorem scaleDecimal_den_pos {num den : Nat} (h : 0 < den) (shift : Int) :
    0 < (scaleDecimal num den shift).2 := by
  unfold scaleDecimal
  split
  · exact h
  · exact Nat.mul_pos h (Nat.pow_pos (by decide))

/-- A fraction is scaled as its amount is. -/
theorem scaled_div (base : Nat) (num den : Nat) (shift : Int) :
    (if 0 ≤ shift then ((num * base ^ shift.toNat : Nat) : ℚ) / den
      else (num : ℚ) / ((den * base ^ (-shift).toNat : Nat) : ℚ)) =
        (num : ℚ) / den * (base : ℚ) ^ shift := by
  split
  next h =>
    obtain ⟨n, rfl⟩ := Int.eq_ofNat_of_zero_le h
    rw [Int.toNat_natCast, zpow_natCast]
    push_cast
    ring
  next h =>
    obtain ⟨n, hn⟩ := Int.eq_ofNat_of_zero_le (show 0 ≤ -shift by omega)
    obtain rfl : shift = -(n : Int) := by omega
    rw [show (- -(n : Int)).toNat = n by omega, zpow_neg, zpow_natCast]
    push_cast
    rw [← div_div, div_eq_mul_inv (_ / _)]

theorem scaleBinary_div (num den : Nat) (shift : Int) :
    ((scaleBinary num den shift).1 : ℚ) / (scaleBinary num den shift).2 =
      (num : ℚ) / den * 2 ^ shift := by
  have h := scaled_div 2 num den shift
  unfold scaleBinary
  split at h <;> split <;> first | contradiction | exact h

theorem scaleDecimal_div (num den : Nat) (shift : Int) :
    ((scaleDecimal num den shift).1 : ℚ) / (scaleDecimal num den shift).2 =
      (num : ℚ) / den * 10 ^ shift := by
  have h := scaled_div 10 num den shift
  unfold scaleDecimal
  split at h <;> split <;> first | contradiction | exact h

/-! ## Logarithms -/

theorem log_eq {b : Nat} (hb : 1 < b) {q : ℚ} {k : Int} (hlow : (b : ℚ) ^ k ≤ q)
    (hhigh : q < (b : ℚ) ^ (k + 1)) : Int.log b q = k := by
  have hpos : 0 < q := lt_of_lt_of_le (zpow_pos (by exact_mod_cast (by omega : 0 < b)) k) hlow
  have hle := (Int.zpow_le_iff_le_log hb hpos).mp hlow
  have hlt := (Int.lt_zpow_iff_log_lt hb hpos).mp hhigh
  omega

/-- The estimate of a logarithm is off by one at most, and one comparison decides. -/
theorem floorLog2_eq {num den : Nat} (hnum : 0 < num) (hden : 0 < den) :
    floorLog2 num den = Int.log 2 ((num : ℚ) / den) := by
  have hdenq : (0 : ℚ) < den := by exact_mod_cast hden
  have hbounds (n : Nat) (hn : 0 < n) : (2 : ℚ) ^ (Nat.log2 n : Int) ≤ n ∧
      (n : ℚ) < 2 ^ ((Nat.log2 n : Int) + 1) := by
    rw [zpow_natCast, show ((Nat.log2 n : Int) + 1) = ((Nat.log2 n + 1 : Nat) : Int) by rfl,
      zpow_natCast]
    exact ⟨by exact_mod_cast Nat.log2_self_le hn.ne', by exact_mod_cast Nat.lt_log2_self⟩
  obtain ⟨hnumlow, hnumhigh⟩ := hbounds num hnum
  obtain ⟨hdenlow, hdenhigh⟩ := hbounds den hden
  set estimate : Int := (Nat.log2 num : Int) - Nat.log2 den with hestimate
  have hscaled := scaleBinary_div num den (-estimate)
  have hpos : (0 : ℚ) < (scaleBinary num den (-estimate)).2 := by
    exact_mod_cast scaleBinary_den_pos hden _
  have hless : (scaleBinary num den (-estimate)).1 < (scaleBinary num den (-estimate)).2 ↔
      (num : ℚ) / den < 2 ^ estimate := by
    rw [← Nat.cast_lt (α := ℚ), ← div_lt_one hpos, hscaled, zpow_neg,
      ← div_eq_mul_inv, div_lt_one (zpow_pos two_pos _)]
  have hlow : (2 : ℚ) ^ (estimate - 1) ≤ (num : ℚ) / den := by
    rw [le_div_iff₀ hdenq]
    calc (2 : ℚ) ^ (estimate - 1) * den
        ≤ 2 ^ (estimate - 1) * 2 ^ ((Nat.log2 den : Int) + 1) := by gcongr
      _ = 2 ^ (Nat.log2 num : Int) := by
        rw [← zpow_add₀ two_ne_zero]
        congr 1
        omega
      _ ≤ num := hnumlow
  have hhigh : (num : ℚ) / den < 2 ^ (estimate + 1) := by
    rw [div_lt_iff₀ hdenq]
    calc (num : ℚ) < 2 ^ ((Nat.log2 num : Int) + 1) := hnumhigh
      _ = 2 ^ (estimate + 1) * 2 ^ (Nat.log2 den : Int) := by
        rw [← zpow_add₀ two_ne_zero]
        congr 1
        omega
      _ ≤ 2 ^ (estimate + 1) * den := by gcongr
  show (if (scaleBinary num den (-estimate)).1 < (scaleBinary num den (-estimate)).2 then
    estimate - 1 else estimate) = _
  split
  next h => exact (log_eq one_lt_two hlow (by simpa using hless.mp h)).symm
  next h => exact (log_eq one_lt_two (not_lt.mp (hless.not.mp h)) hhigh).symm

/-! ## The nearest number -/

/-- The nearest natural number, of two that are equally near the even one. -/
def nearest (q : ℚ) : Nat :=
  let below := ⌊q⌋₊
  if 1 < 2 * (q - below) ∨ (2 * (q - below) = 1 ∧ below % 2 = 1) then below + 1 else below

theorem roundDiv_eq {num den : Nat} (hden : 0 < den) :
    roundDiv num den = nearest ((num : ℚ) / den) := by
  have hdenq : (0 : ℚ) < den := by exact_mod_cast hden
  have hfloor : ⌊(num : ℚ) / den⌋₊ = num / den := Nat.floor_div_eq_div num den
  have hrest : 2 * ((num : ℚ) / den - (num / den : Nat)) = ((2 * (num % den) : Nat) : ℚ) / den := by
    have hdivision : (num : ℚ) = den * (num / den : Nat) + (num % den : Nat) := by
      exact_mod_cast (Nat.div_add_mod num den).symm
    rw [Nat.cast_mul, eq_div_iff hdenq.ne', mul_assoc, sub_mul, div_mul_cancel₀ _ hdenq.ne']
    push_cast
    linarith
  unfold roundDiv nearest
  simp only [hfloor, hrest, lt_div_iff₀ hdenq, div_eq_one_iff_eq hdenq.ne', one_mul, Nat.cast_lt,
    Nat.cast_inj, gt_iff_lt]

theorem nearest_eq {q : ℚ} {n : Nat} (hlow : (n : ℚ) - 1 / 2 < q) (hhigh : q < n + 1 / 2) :
    nearest q = n := by
  unfold nearest
  rcases le_or_gt (n : ℚ) q with h | h
  · have hfloor : ⌊q⌋₊ = n :=
      (Nat.floor_eq_iff ((Nat.cast_nonneg n).trans h)).mpr ⟨h, by linarith⟩
    rw [hfloor, if_neg]
    rintro (hlt | ⟨heq, -⟩) <;> linarith
  · cases n with
    | zero =>
      rw [Nat.cast_zero] at h
      rw [Nat.floor_of_nonpos h.le]
      refine if_neg ?_
      rw [Nat.cast_zero]
      rintro (hlt | ⟨heq, -⟩) <;> linarith
    | succ m =>
      push_cast at hlow h
      have hnonneg : (0 : ℚ) ≤ m := Nat.cast_nonneg m
      have hfloor : ⌊q⌋₊ = m := (Nat.floor_eq_iff (by linarith)).mpr ⟨by linarith, h⟩
      rw [hfloor, if_pos (.inl (by linarith))]

/-- The exponent of the numbers around a positive amount. -/
def exponentOf (q : ℚ) : Int :=
  max (Int.log 2 q - 52) (-1074)

/-- The number of a rounded significand. -/
def ofRounded (negative : Bool) (rounded : Nat) (exponent : Int) : Binary64 :=
  let (significand, exponent) :=
    if rounded = 2 * leastFull then (leastFull, exponent + 1) else (rounded, exponent)
  if h : Canonical significand exponent then .finite negative significand exponent h
  else .infinity negative

/-- The number nearest to an amount. -/
def ofRat (negative : Bool) (q : ℚ) : Binary64 :=
  if q = 0 then zeroOf negative
  else ofRounded negative (nearest (q * 2 ^ (-exponentOf q))) (exponentOf q)

/-- A fraction is rounded by its amount. -/
theorem ofRatio_eq (negative : Bool) {num den : Nat} (hden : 0 < den) :
    ofRatio negative num den = ofRat negative ((num : ℚ) / den) := by
  unfold ofRatio ofRat
  have hdenq : (den : ℚ) ≠ 0 := by exact_mod_cast hden.ne'
  by_cases hnum : num = 0
  · rw [if_pos hnum, if_pos (by rw [hnum]; simp)]
  · have hne : (num : ℚ) / den ≠ 0 := div_ne_zero (by exact_mod_cast hnum) hdenq
    rw [if_neg hnum, if_neg hne]
    have hexponent : max (floorLog2 num den - 52) (-1074) = exponentOf ((num : ℚ) / den) := by
      rw [floorLog2_eq (Nat.pos_of_ne_zero hnum) hden, exponentOf]
    have hrounded : roundDiv (scaleBinary num den (-exponentOf ((num : ℚ) / den))).1
        (scaleBinary num den (-exponentOf ((num : ℚ) / den))).2 =
          nearest ((num : ℚ) / den * 2 ^ (-exponentOf ((num : ℚ) / den))) := by
      rw [roundDiv_eq (scaleBinary_den_pos hden _), scaleBinary_div]
    simp only [hexponent, hrounded]
    rfl

theorem exponentOf_eq {q : ℚ} {k : Int} (hlow : (2 : ℚ) ^ (k + 52) ≤ q)
    (hhigh : q < 2 ^ (k + 53)) (hk : -1074 ≤ k) : exponentOf q = k := by
  have hlog : Int.log 2 q = k + 52 :=
    log_eq one_lt_two (by exact_mod_cast hlow) (by rw [add_assoc]; exact_mod_cast hhigh)
  unfold exponentOf
  omega

theorem exponentOf_least {q : ℚ} (hpos : 0 < q) (hhigh : q < 2 ^ (-1021 : Int)) :
    exponentOf q = -1074 := by
  have hlog : Int.log 2 q < -1021 :=
    (Int.lt_zpow_iff_log_lt one_lt_two hpos).mp (by exact_mod_cast hhigh)
  unfold exponentOf
  omega

/-- Amounts far beyond the greatest number are rounded to an infinity. -/
theorem ofRat_of_large (negative : Bool) {q : ℚ} (h : (2 : ℚ) ^ (1025 : Int) ≤ q) :
    ofRat negative q = .infinity negative := by
  have hpos : 0 < q := lt_of_lt_of_le (zpow_pos two_pos _) h
  have hlog : 1025 ≤ Int.log 2 q :=
    (Int.zpow_le_iff_le_log one_lt_two hpos).mp (by rwa [Nat.cast_ofNat])
  have hexponent : 973 ≤ exponentOf q := by
    unfold exponentOf
    omega
  have hbeyond (significand : Nat) {exponent : Int} (hle : 973 ≤ exponent) :
      ¬ Canonical significand exponent := by
    rintro ⟨-, -, hgreatest, -⟩
    omega
  rw [ofRat, if_neg hpos.ne', ofRounded]
  by_cases hcarry : nearest (q * 2 ^ (-exponentOf q)) = 2 * leastFull
  · rw [if_pos hcarry]
    exact dif_neg (hbeyond _ (by omega))
  · rw [if_neg hcarry]
    exact dif_neg (hbeyond _ hexponent)

/-- Amounts far below the least positive number are rounded to zero. -/
theorem ofRat_of_small (negative : Bool) {q : ℚ} (hpos : 0 < q) (h : q < 2 ^ (-1076 : Int)) :
    ofRat negative q = zeroOf negative := by
  have hexponent : exponentOf q = -1074 :=
    exponentOf_least hpos (h.trans (zpow_lt_zpow_right₀ one_lt_two (by decide)))
  have hscaled : q * 2 ^ (1074 : Int) < 1 / 4 := by
    calc q * 2 ^ (1074 : Int) < 2 ^ (-1076 : Int) * 2 ^ (1074 : Int) := by gcongr
      _ = 1 / 4 := by
        rw [← zpow_add₀ two_ne_zero]
        norm_num
  have hnonneg : 0 < q * 2 ^ (1074 : Int) := mul_pos hpos (zpow_pos two_pos _)
  have hrounded : nearest (q * 2 ^ (1074 : Int)) = 0 := by
    generalize q * 2 ^ (1074 : Int) = scaled at hscaled hnonneg
    exact nearest_eq (by push_cast; linarith) (by push_cast; linarith)
  rw [ofRat, if_neg hpos.ne', hexponent]
  show ofRounded negative (nearest (q * 2 ^ (1074 : Int))) (-1074) = _
  rw [hrounded]
  rfl

/-- A decimal is rounded by its amount. -/
theorem ofDecimal_eq (negative : Bool) (digits : Nat) (exponent : Int) :
    ofDecimal negative digits exponent = ofRat negative (digits * 10 ^ exponent) := by
  unfold ofDecimal
  by_cases hzero : digits = 0
  · rw [if_pos hzero, hzero, ofRat, if_pos (by simp)]
  have hdigits : (1 : ℚ) ≤ digits := by exact_mod_cast Nat.pos_of_ne_zero hzero
  have hpower : (0 : ℚ) < 10 ^ exponent := zpow_pos (by norm_num) _
  rw [if_neg hzero]
  split_ifs with hlarge hsmall
  · refine (ofRat_of_large negative ?_).symm
    have hpowers : 2 ^ 1025 ≤ 10 ^ 311 := by decide +kernel
    calc (2 : ℚ) ^ (1025 : Int) ≤ 10 ^ (311 : Int) := by
          rw [zpow_ofNat, zpow_ofNat]
          exact_mod_cast (Nat.cast_le (α := ℚ)).mpr hpowers
      _ ≤ 10 ^ exponent := zpow_le_zpow_right₀ (by norm_num) (by omega)
      _ ≤ digits * 10 ^ exponent := le_mul_of_one_le_left hpower.le hdigits
  · refine (ofRat_of_small negative (mul_pos (by linarith) hpower) ?_).symm
    have hlog : (digits : ℚ) < 2 ^ ((Nat.log2 digits : Int) + 1) := by
      rw [show ((Nat.log2 digits : Int) + 1) = ((Nat.log2 digits + 1 : Nat) : Int) by rfl,
        zpow_natCast]
      exact_mod_cast Nat.lt_log2_self
    have height : (10 : ℚ) ^ exponent ≤ 2 ^ (3 * exponent) := by
      obtain ⟨n, rfl⟩ : ∃ n : Nat, exponent = -n := ⟨exponent.natAbs, by omega⟩
      rw [zpow_mul, zpow_neg, zpow_neg, zpow_natCast, zpow_natCast]
      exact inv_anti₀ (by positivity) (by gcongr; norm_num)
    calc (digits : ℚ) * 10 ^ exponent
        < 2 ^ ((Nat.log2 digits : Int) + 1) * 2 ^ (3 * exponent) :=
          mul_lt_mul hlog height hpower (by positivity)
      _ = 2 ^ ((Nat.log2 digits : Int) + 1 + 3 * exponent) := (zpow_add₀ two_ne_zero _ _).symm
      _ ≤ 2 ^ (-1076 : Int) := zpow_le_zpow_right₀ (by norm_num) (by omega)
  · have hscaled := scaleDecimal_div digits 1 exponent
    rw [Nat.cast_one, div_one] at hscaled
    rw [← hscaled]
    exact ofRatio_eq negative (scaleDecimal_den_pos Nat.one_pos _)

/-- The amounts that are nearer to a positive number than half the distance to its neighbours.
Below a power of two the neighbour is at half the distance of the one above. -/
structure Near (significand : Nat) (exponent : Int) (q : ℚ) : Prop where
  above : ((significand : ℚ) - 1 / 2) * 2 ^ exponent < q
  below : q < ((significand : ℚ) + 1 / 2) * 2 ^ exponent
  power : significand = leastFull → -1074 < exponent →
    ((significand : ℚ) - 1 / 4) * 2 ^ exponent < q

theorem ofRounded_eq (negative : Bool) {significand : Nat} {exponent : Int}
    (h : Canonical significand exponent) :
    ofRounded negative significand exponent = .finite negative significand exponent h := by
  have hne : significand ≠ 2 * leastFull := by
    have hlt := h.1
    omega
  unfold ofRounded
  rw [if_neg hne]
  exact dif_pos h

section Near

variable {significand : Nat} {exponent : Int} {q : ℚ}

theorem leastFull_cast : (leastFull : ℚ) = 2 ^ (52 : Int) := by
  norm_num [leastFull]

theorem Near.pos (h : Near significand exponent q) (hpos : 0 < significand) : 0 < q := by
  have hone : (1 : ℚ) ≤ significand := by exact_mod_cast hpos
  exact lt_trans (mul_pos (by linarith) (zpow_pos two_pos _)) h.above

theorem Near.lt_pow (h : Near significand exponent q) (hbits : significand < 2 * leastFull) :
    q < 2 ^ (exponent + 53) := by
  have hbitsq : (significand : ℚ) + 1 ≤ 2 ^ (53 : Int) := by
    have hcast : ((significand + 1 : Nat) : ℚ) ≤ ((2 * leastFull : Nat) : ℚ) := by
      exact_mod_cast hbits
    push_cast at hcast
    rw [leastFull_cast] at hcast
    calc (significand : ℚ) + 1 ≤ 2 * 2 ^ (52 : Int) := hcast
      _ = 2 ^ (53 : Int) := by norm_num
  calc q < ((significand : ℚ) + 1 / 2) * 2 ^ exponent := h.below
    _ ≤ 2 ^ (53 : Int) * 2 ^ exponent := by gcongr; linarith
    _ = 2 ^ (exponent + 53) := by rw [← zpow_add₀ two_ne_zero, add_comm]

/-- Of the numbers with all their bits, only a power of two is near to amounts below its binade. -/
theorem Near.eq_leastFull (h : Near significand exponent q) (hfull : leastFull ≤ significand)
    (hbelow : q < 2 ^ (exponent + 52)) : significand = leastFull := by
  by_contra hne
  have hmore : leastFull + 1 ≤ significand := by omega
  have hmoreq : (2 : ℚ) ^ (52 : Int) + 1 ≤ significand := by
    rw [← leastFull_cast]
    exact_mod_cast hmore
  have hat : (2 : ℚ) ^ (exponent + 52) < q := by
    calc (2 : ℚ) ^ (exponent + 52) = 2 ^ (52 : Int) * 2 ^ exponent := by
          rw [← zpow_add₀ two_ne_zero, add_comm]
      _ ≤ ((significand : ℚ) - 1 / 2) * 2 ^ exponent := by gcongr; linarith
      _ < q := h.above
  linarith

/-- Among numbers of the same exponent an amount is rounded to the one that it is near to. -/
theorem Near.nearest_eq (h : Near significand exponent q) :
    nearest (q * 2 ^ (-exponent)) = significand := by
  have hcancel : (2 : ℚ) ^ exponent * 2 ^ (-exponent) = 1 := by
    rw [← zpow_add₀ two_ne_zero, add_neg_cancel, zpow_zero]
  have hinverse : (0 : ℚ) < 2 ^ (-exponent) := zpow_pos two_pos _
  refine Binary64.nearest_eq ?_ ?_
  · have := mul_lt_mul_of_pos_right h.above hinverse
    rwa [mul_assoc, hcancel, mul_one] at this
  · have := mul_lt_mul_of_pos_right h.below hinverse
    rwa [mul_assoc _ ((2 : ℚ) ^ exponent), hcancel, mul_one] at this

/-- Below a power of two the numbers have half the distance, and twice the significand. -/
theorem nearest_below_power (hpower : ((2 : ℚ) ^ (52 : Int) - 1 / 4) * 2 ^ exponent < q)
    (hbelow : q < 2 ^ (exponent + 52)) :
    nearest (q * 2 ^ (-(exponent - 1))) = 2 * leastFull := by
  have hdouble (x : ℚ) : x * 2 ^ exponent * 2 ^ (-(exponent - 1)) = 2 * x := by
    rw [mul_assoc, ← zpow_add₀ two_ne_zero, show exponent + -(exponent - 1) = 1 by omega,
      zpow_one, mul_comm]
  have hinverse : (0 : ℚ) < 2 ^ (-(exponent - 1)) := zpow_pos two_pos _
  refine nearest_eq ?_ ?_
  · have := mul_lt_mul_of_pos_right hpower hinverse
    rw [hdouble] at this
    push_cast
    rw [leastFull_cast]
    linarith
  · have := mul_lt_mul_of_pos_right hbelow hinverse
    rw [show exponent + 52 = 52 + exponent by omega, zpow_add₀ two_ne_zero, hdouble] at this
    push_cast
    rw [leastFull_cast]
    linarith

end Near

/-- An amount that is nearest to a number is rounded to it. -/
theorem ofRat_of_near (negative : Bool) {significand : Nat} {exponent : Int}
    (h : Canonical significand exponent) (hpos : 0 < significand) {q : ℚ}
    (hnear : Near significand exponent q) :
    ofRat negative q = .finite negative significand exponent h := by
  obtain ⟨hbits, hleast, hgreatest, hfull⟩ := id h
  have hq : 0 < q := hnear.pos hpos
  have hhigh : q < 2 ^ (exponent + 53) := hnear.lt_pow hbits
  rw [ofRat, if_neg hq.ne']
  by_cases hinside : (2 : ℚ) ^ (exponent + 52) ≤ q ∨ exponent = -1074
  · -- the amount lies among numbers of the same exponent
    have hexponent : exponentOf q = exponent := by
      rcases hinside with hlow | rfl
      · exact exponentOf_eq hlow hhigh hleast
      · exact exponentOf_least hq hhigh
    rw [hexponent, hnear.nearest_eq]
    exact ofRounded_eq negative h
  · -- the amount lies below a power of two, among numbers of half the distance
    push Not at hinside
    obtain ⟨hbelow, hnotleast⟩ := hinside
    obtain rfl := hnear.eq_leastFull (hfull.resolve_right hnotleast) hbelow
    have hpower := hnear.power rfl (by omega)
    rw [leastFull_cast] at hpower
    have hlow : (2 : ℚ) ^ (exponent - 1 + 52) ≤ q := by
      refine le_trans ?_ hpower.le
      rw [show exponent - 1 + 52 = 51 + exponent by omega, zpow_add₀ two_ne_zero]
      gcongr
      norm_num
    have hexponent : exponentOf q = exponent - 1 :=
      exponentOf_eq hlow (by rwa [show exponent - 1 + 53 = exponent + 52 by omega]) (by omega)
    rw [hexponent, nearest_below_power hpower hbelow, ofRounded, if_pos rfl]
    simp only [sub_add_cancel]
    exact dif_pos h

end Binary64
end Schematic
