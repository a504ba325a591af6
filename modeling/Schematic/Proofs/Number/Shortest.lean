import Schematic.Number.Shortest
import Schematic.Proofs.Number.Rounding

/-!
The shortest decimal of a number reads back as the number.  Among the decimals with 17 digits the two
around a number are nearer to each other than the number and its neighbours are, so that one of them
reads back, and the search for the shortest always ends with digits that do.
-/

namespace Schematic
namespace Binary64

/-! ## Digits -/

/-- The amount of decimal digits, the first of them at an exponent. -/
def decimalAmount (digits : List Char) (exponent : Int) : ℚ :=
  Nat.ofDigitChars 10 digits 0 * 10 ^ (exponent + 1 - digits.length)

/-- Decimal digits that stand for a positive number and do not start with a zero. -/
structure IsNumeral (digits : List Char) : Prop where
  digit : ∀ c ∈ digits, c.isDigit = true
  head : ∃ first rest, digits = first :: rest ∧ first ≠ '0'

theorem isNumeral_digitsOf {n : Nat} (h : 0 < n) : IsNumeral (digitsOf n) := by
  refine ⟨fun c hc => Nat.isDigit_of_mem_toDigits (by decide) (by decide) hc, ?_⟩
  induction n using Nat.strongRecOn with
  | ind n ih =>
    by_cases hlt : n < 10
    · refine ⟨n.digitChar, [], Nat.toDigits_of_lt_base hlt, ?_⟩
      rw [Ne, Nat.digitChar_eq_zero]
      omega
    · obtain ⟨first, rest, heq, hne⟩ := ih (n / 10) (by omega) (by omega)
      refine ⟨first, rest ++ [(n % 10).digitChar], ?_, hne⟩
      show Nat.toDigits 10 n = _
      rw [Nat.toDigits_of_base_le (by decide) (by omega)]
      show digitsOf (n / 10) ++ _ = _
      rw [heq]
      rfl

/-- Digits without the zeros at their end. -/
theorem trimmed_append (digits : List Char) :
    digits = (digits.reverse.dropWhile (· == '0')).reverse ++
      List.replicate (digits.reverse.takeWhile (· == '0')).length '0' := by
  have hzeros : digits.reverse.takeWhile (· == '0') =
      List.replicate (digits.reverse.takeWhile (· == '0')).length '0' := by
    refine List.eq_replicate_iff.mpr ⟨rfl, fun c hc => ?_⟩
    have hzero := List.all_takeWhile (p := (· == '0')) (l := digits.reverse)
    exact eq_of_beq (List.all_eq_true.mp hzero c hc)
  calc digits = (digits.reverse.takeWhile (· == '0') ++
        digits.reverse.dropWhile (· == '0')).reverse := by
        rw [List.takeWhile_append_dropWhile, List.reverse_reverse]
    _ = _ := by
        rw [List.reverse_append, hzeros, List.reverse_replicate, List.length_replicate]

theorem trimmed_isNumeral {digits : List Char} (h : IsNumeral digits) :
    IsNumeral (digits.reverse.dropWhile (· == '0')).reverse := by
  have happend := trimmed_append digits
  set kept := (digits.reverse.dropWhile (· == '0')).reverse
  obtain ⟨first, rest, heq, hne⟩ := h.head
  refine ⟨fun c hc => h.digit c (by rw [happend]; exact List.mem_append_left _ hc), ?_⟩
  cases hkept : kept with
  | nil =>
    rw [hkept, List.nil_append, heq] at happend
    have hfirst : first ∈ List.replicate (digits.reverse.takeWhile (· == '0')).length '0' := by
      rw [heq, ← happend]
      exact List.mem_cons_self
    exact absurd (List.eq_of_mem_replicate hfirst) hne
  | cons c more =>
    rw [hkept, heq] at happend
    obtain rfl : first = c := List.head_eq_of_cons_eq happend
    exact ⟨first, more, rfl, hne⟩

/-- Zeros at the end of digits do not change the amount. -/
theorem trimmed_amount (digits : List Char) (exponent : Int) :
    decimalAmount (digits.reverse.dropWhile (· == '0')).reverse exponent =
      decimalAmount digits exponent := by
  have happend := trimmed_append digits
  set kept := (digits.reverse.dropWhile (· == '0')).reverse
  set zeros := (digits.reverse.takeWhile (· == '0')).length
  unfold decimalAmount
  rw [happend, Nat.ofDigitChars_append, Nat.ofDigitChars_replicate_zero, List.length_append,
    List.length_replicate]
  have hsplit : exponent + 1 - (kept.length : Int) =
      exponent + 1 - ((kept.length + zeros : Nat) : Int) + (zeros : Int) := by
    push_cast
    omega
  rw [hsplit, zpow_add₀ (by norm_num), zpow_natCast]
  push_cast
  ring

/-! ## The leading digit -/

theorem length_digitsOf {n : Nat} (h : 0 < n) :
    10 ^ ((digitsOf n).length - 1) ≤ n ∧ n < 10 ^ (digitsOf n).length := by
  have hlength : 0 < (digitsOf n).length := Nat.length_toDigits_pos
  constructor
  · by_contra hlt
    by_cases hone : (digitsOf n).length - 1 = 0
    · rw [hone] at hlt
      omega
    · have hle := (Nat.length_toDigits_le_iff (by decide) (Nat.pos_of_ne_zero hone)).mpr
        (not_le.mp hlt)
      change (digitsOf n).length ≤ _ at hle
      omega
  · exact (Nat.length_toDigits_le_iff (by decide) hlength).mp (Nat.le_refl _)

/-- The number of digits of a scaled fraction tells the power of ten below the fraction. -/
theorem length_scaled_bounds {num den : Nat} (places : Nat)
    (hlarge : (1 : ℚ) ≤ num / den * 10 ^ places) {length : Nat}
    (hlength : length = (digitsOf (Nat.pow 10 places * num / den)).length) :
    (10 : ℚ) ^ ((length : Int) - (places + 1)) ≤ num / den ∧
      (num : ℚ) / den < 10 ^ ((length : Int) - places) := by
  set scaled := Nat.pow 10 places * num / den with hscaled
  have hfloor : scaled = ⌊(num : ℚ) / den * 10 ^ places⌋₊ := by
    have hpower : ((Nat.pow 10 places : Nat) : ℚ) = 10 ^ places := by
      rw [Nat.pow_eq, Nat.cast_pow, Nat.cast_ofNat]
    rw [hscaled, ← hpower, div_mul_eq_mul_div, mul_comm, ← Nat.cast_mul, Nat.floor_div_eq_div]
  have hpos : 0 < scaled := by
    rw [hfloor]
    exact Nat.floor_pos.mpr hlarge
  have hlow : (scaled : ℚ) ≤ num / den * 10 ^ places := by
    rw [hfloor]
    exact Nat.floor_le (by linarith)
  have hhigh : (num : ℚ) / den * 10 ^ places < scaled + 1 := by
    rw [hfloor]
    exact Nat.lt_floor_add_one _
  obtain ⟨hleast, hmost⟩ := length_digitsOf hpos
  rw [← hlength] at hleast hmost
  have hone : 0 < length := hlength ▸ Nat.length_toDigits_pos
  have hunscale (k : Int) : (10 : ℚ) ^ (k - places) * 10 ^ places = 10 ^ k := by
    rw [← zpow_natCast, ← zpow_add₀ (by norm_num), sub_add_cancel]
  have hunit : (0 : ℚ) < 10 ^ places := by positivity
  constructor
  · refine le_of_mul_le_mul_right ?_ hunit
    rw [show (length : Int) - (places + 1) = ((length - 1 : Nat) : Int) - places by omega,
      hunscale, zpow_natCast]
    exact le_trans (by exact_mod_cast hleast) hlow
  · refine lt_of_mul_lt_mul_right ?_ hunit.le
    rw [hunscale, zpow_natCast]
    exact lt_of_lt_of_le hhigh (by exact_mod_cast hmost)

/-- The leading exponent is that of the power of ten below an amount. -/
theorem leadingExponent_bounds {num den : Nat} (hlarge : (1 : ℚ) ≤ num / den * 10 ^ 400) :
    (10 : ℚ) ^ leadingExponent num den ≤ num / den ∧
      (num : ℚ) / den < 10 ^ (leadingExponent num den + 1) := by
  obtain ⟨hlow, hhigh⟩ := length_scaled_bounds 400 hlarge rfl
  refine ⟨hlow, lt_of_lt_of_eq hhigh ?_⟩
  congr 1
  unfold leadingExponent
  omega

/-! ## Reading back -/

theorem nearestReadingBack_eq_some {x : Binary64} {num den digits : Nat} {unit : Int}
    (h : nearestReadingBack x num den unit = some digits) : ofDecimal false digits unit = x := by
  unfold nearestReadingBack at h
  dsimp only at h
  split at h
  next hbelow habove =>
    split at h
    · rw [← Option.some.inj h]
      exact eq_of_beq hbelow
    · rw [← Option.some.inj h]
      exact eq_of_beq habove
  next hbelow _ =>
    rw [← Option.some.inj h]
    exact eq_of_beq hbelow
  next _ habove =>
    rw [← Option.some.inj h]
    exact eq_of_beq habove
  next => cases h

/-- One of the two decimals around a fraction is found if one of them reads back. -/
theorem nearestReadingBack_isSome {x : Binary64} {num den : Nat} {unit : Int} (below : Nat)
    (hbelow : below = (scaleDecimal num den (-unit)).1 / (scaleDecimal num den (-unit)).2)
    (h : ofDecimal false below unit = x ∨ ofDecimal false (below + 1) unit = x) :
    ∃ digits, nearestReadingBack x num den unit = some digits := by
  unfold nearestReadingBack
  dsimp only
  rw [← hbelow]
  have heither : (ofDecimal false below unit == x) = true ∨
      (ofDecimal false (below + 1) unit == x) = true := by
    rwa [beq_iff_eq, beq_iff_eq]
  cases hfirst : ofDecimal false below unit == x <;>
    cases hsecond : ofDecimal false (below + 1) unit == x
  · rw [hfirst, hsecond] at heither
    rcases heither with h | h <;> cases h
  all_goals exact ⟨_, rfl⟩

/-- The search ends with digits that read back if there are such digits among those it tries. -/
theorem shortestFrom_readsBack {x : Binary64} {num den : Nat} {leading : Int} {enough : Nat}
    (h : ∃ digits, nearestReadingBack x num den (leading - enough + 1) = some digits) :
    ∀ fuel count, count ≤ enough → enough < count + fuel →
      ofDecimal false (shortestFrom x num den leading fuel count).1
        (shortestFrom x num den leading fuel count).2 = x := by
  intro fuel
  induction fuel with
  | zero => exact fun count hle hlt => absurd hlt (by omega)
  | succ fuel ih =>
    intro count hle hlt
    unfold shortestFrom
    dsimp only
    split
    next digits hfound => exact nearestReadingBack_eq_some hfound
    next hnone =>
      have hne : count ≠ enough := by
        rintro rfl
        obtain ⟨digits, hfound⟩ := h
        rw [hnone] at hfound
        cases hfound
      exact ih (count + 1) (by omega) (by omega)

/-- Of two decimals around a number that are nearer to each other than the number and its
neighbours are, one is near. -/
theorem near_of_between {significand : Nat} {exponent : Int} {below unit : ℚ}
    (hpos : 0 < unit) (hbits : (significand : ℚ) < 2 ^ 53)
    (hunit : unit * 10 ^ 16 ≤ significand * 2 ^ exponent)
    (hbelow : below ≤ significand * 2 ^ exponent)
    (habove : (significand : ℚ) * 2 ^ exponent < below + unit) :
    Near significand exponent below ∨ Near significand exponent (below + unit) := by
  have hulp : (0 : ℚ) < 2 ^ exponent := zpow_pos two_pos _
  have hamount : (significand : ℚ) * 2 ^ exponent < 2 ^ 53 * 2 ^ exponent := by gcongr
  rcases lt_or_ge (below + unit) (((significand : ℚ) + 1 / 2) * 2 ^ exponent) with h | h
  · right
    exact ⟨by linarith, h, fun _ _ => by linarith⟩
  · left
    refine ⟨by linarith, by linarith, ?_⟩
    rintro rfl -
    have hfull : (leastFull : ℚ) = 2 ^ 52 := by norm_num [leastFull]
    rw [hfull] at hunit h ⊢
    linarith

theorem ofRounded_of_sign (negative : Bool) {rounded : Nat} {k : Int} {significand : Nat}
    {exponent : Int} {h : Canonical significand exponent}
    (hread : ofRounded false rounded k = .finite false significand exponent h) :
    ofRounded negative rounded k = .finite negative significand exponent h := by
  unfold ofRounded at hread ⊢
  dsimp only at hread ⊢
  generalize (if rounded = 2 * leastFull then (leastFull, k + 1) else (rounded, k)) = p at hread ⊢
  by_cases hcanonical : Canonical p.1 p.2
  · rw [dif_pos hcanonical] at hread ⊢
    injection hread with _ hsignificand hexponent
    congr
  · rw [dif_neg hcanonical] at hread
    cases hread

theorem ofRat_of_sign (negative : Bool) {q : ℚ} {significand : Nat} {exponent : Int}
    {h : Canonical significand exponent}
    (hread : ofRat false q = .finite false significand exponent h) :
    ofRat negative q = .finite negative significand exponent h := by
  unfold ofRat at hread ⊢
  by_cases hzero : q = 0
  · rw [if_pos hzero] at hread ⊢
    unfold zeroOf at hread ⊢
    cases hread
    rfl
  · rw [if_neg hzero] at hread ⊢
    exact ofRounded_of_sign negative hread

/-- A positive number is far above the unit in which the leading digit is sought. -/
theorem one_le_amount {significand : Nat} {exponent : Int} (h : Canonical significand exponent)
    (hpos : 0 < significand) : (1 : ℚ) ≤ significand * 2 ^ exponent * 10 ^ 400 := by
  have hpowers : 2 ^ 1074 ≤ 10 ^ 400 := by decide +kernel
  have hone : (1 : ℚ) ≤ significand := by exact_mod_cast hpos
  calc (1 : ℚ) = 2 ^ (-1074 : Int) * 2 ^ 1074 := by
        rw [zpow_neg, zpow_ofNat, inv_mul_cancel₀ (by positivity)]
    _ ≤ 2 ^ exponent * 10 ^ 400 := by
        refine mul_le_mul (zpow_le_zpow_right₀ (by norm_num) h.2.1) ?_ (by positivity)
          (by positivity)
        exact_mod_cast (Nat.cast_le (α := ℚ)).mpr hpowers
    _ ≤ significand * 2 ^ exponent * 10 ^ 400 := by
        gcongr
        exact le_mul_of_one_le_left (by positivity) hone

/-- With 17 digits one of the two decimals around a number reads back. -/
theorem exists_nearestReadingBack {significand : Nat} {exponent : Int}
    (h : Canonical significand exponent) (hpos : 0 < significand) {num den : Nat}
    (hamount : (num : ℚ) / den = significand * 2 ^ exponent) {leading : Int}
    (hleading : (10 : ℚ) ^ leading ≤ num / den) :
    ∃ digits, nearestReadingBack (.finite false significand exponent h) num den
      (leading - (17 : Nat) + 1) = some digits := by
  set unit : Int := leading - (17 : Nat) + 1 with hunit
  set below := (scaleDecimal num den (-unit)).1 / (scaleDecimal num den (-unit)).2 with hbelow
  have hfloor : below = ⌊(num : ℚ) / den * 10 ^ (-unit)⌋₊ := by
    rw [hbelow, ← scaleDecimal_div, Nat.floor_div_eq_div]
  have hpower : (0 : ℚ) < 10 ^ unit := zpow_pos (by norm_num) _
  have hcancel : (10 : ℚ) ^ (-unit) * 10 ^ unit = 1 := by
    rw [← zpow_add₀ (by norm_num), neg_add_cancel, zpow_zero]
  have hlow : (below : ℚ) * 10 ^ unit ≤ num / den := by
    have hle : (below : ℚ) ≤ num / den * 10 ^ (-unit) := by
      rw [hfloor]
      exact Nat.floor_le (by positivity)
    have := mul_le_mul_of_nonneg_right hle hpower.le
    rwa [mul_assoc, hcancel, mul_one] at this
  have hhigh : (num : ℚ) / den < below * 10 ^ unit + 10 ^ unit := by
    have hlt : (num : ℚ) / den * 10 ^ (-unit) < below + 1 := by
      rw [hfloor]
      exact Nat.lt_floor_add_one _
    have := mul_lt_mul_of_pos_right hlt hpower
    rwa [mul_assoc, hcancel, mul_one, add_mul, one_mul] at this
  have hgap : (10 : ℚ) ^ unit * 10 ^ 16 ≤ num / den := by
    rw [← zpow_natCast, ← zpow_add₀ (by norm_num)]
    rwa [show unit + ((16 : Nat) : Int) = leading by omega]
  have hbits : (significand : ℚ) < 2 ^ 53 := by
    have hlt : significand < 2 ^ 53 := h.1
    exact_mod_cast hlt
  rw [hamount] at hlow hhigh hgap
  refine nearestReadingBack_isSome below hbelow ?_
  rw [ofDecimal_eq, ofDecimal_eq, Nat.cast_add, Nat.cast_one, add_mul, one_mul]
  rcases near_of_between hpower hbits hgap hlow hhigh with hnear | hnear
  · exact .inl (ofRat_of_near false h hpos hnear)
  · exact .inr (ofRat_of_near false h hpos hnear)

/-- The digits that the search ends with, for the number that they stand for. -/
theorem shortest_eq {significand : Nat} {exponent : Int} (h : Canonical significand exponent)
    (hpos : 0 < significand) :
    ∃ (digits : Nat) (unit : Int),
      ofDecimal false digits unit = .finite false significand exponent h ∧
        shortest significand exponent h =
          (((digitsOf digits).reverse.dropWhile (· == '0')).reverse,
            unit + (digitsOf digits).length - 1) := by
  have hamount := magnitude_div significand exponent
  unfold shortest
  generalize hfuel : 17 = fuel
  generalize magnitude significand exponent = fraction at hamount
  obtain ⟨num, den⟩ := fraction
  dsimp only at hamount ⊢
  have hlarge := one_le_amount h hpos
  rw [← hamount] at hlarge
  have hfound := exists_nearestReadingBack h hpos hamount (leadingExponent_bounds hlarge).1
  have hreads := shortestFrom_readsBack hfound fuel 1 (by decide) (by omega)
  generalize shortestFrom (.finite false significand exponent h) num den
    (leadingExponent num den) fuel 1 = found at hreads ⊢
  exact ⟨found.1, found.2, hreads, rfl⟩

/-- The shortest digits of a positive number are a numeral, and their amount is rounded to the
number again. -/
theorem shortest_readsBack (negative : Bool) {significand : Nat} {exponent : Int}
    (h : Canonical significand exponent) (hpos : 0 < significand) :
    IsNumeral (shortest significand exponent h).1 ∧
      ofRat negative (decimalAmount (shortest significand exponent h).1
          (shortest significand exponent h).2) =
        .finite negative significand exponent h := by
  obtain ⟨digits, unit, hreads, hshortest⟩ := shortest_eq h hpos
  rw [hshortest]
  have hnonzero : 0 < digits := by
    by_contra hzero
    rw [show digits = 0 by omega, ofDecimal, if_pos rfl, zeroOf] at hreads
    injection hreads with _ hsignificand _
    omega
  refine ⟨trimmed_isNumeral (isNumeral_digitsOf hnonzero), ofRat_of_sign negative ?_⟩
  have hvalue : Nat.ofDigitChars 10 (digitsOf digits) 0 = digits := Nat.ofDigitChars_ten_toDigits
  rw [trimmed_amount, decimalAmount, hvalue, show unit + ((digitsOf digits).length : Int) - 1 + 1 -
    ((digitsOf digits).length : Int) = unit by omega, ← ofDecimal_eq, hreads]

end Binary64
end Schematic
