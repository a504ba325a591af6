import Schematic.Json.Printer
import Schematic.Json.Reader
import Schematic.Proofs.Number.Shortest
import Schematic.Proofs.Text.Utf8

/-!
Numbers in JSON texts.  A number is read from its whole digits, a fraction and an exponent
(`readUnsigned_parts`); an integer has the first alone, and a float is written in one of two layouts,
in each of which the parts have the amount of its digits (`exists_parts_of_magnitudeText`).
-/

namespace Schematic
namespace Json

/-! ## Digits -/

/-- What follows does not go on with digits. -/
def EndsDigits (rest : Bytes) : Prop :=
  ∀ b ∈ rest.head?, isDigit b = false

/-- What follows does not go on with a number. -/
def EndsNumber (rest : Bytes) : Prop :=
  EndsDigits rest ∧ ∀ b ∈ rest.head?, b ≠ byte '.' ∧ b ≠ byte 'e' ∧ b ≠ byte 'E'

theorem byte_toNat {c : Char} (h : c.toNat < 256) : (byte c).toNat = c.toNat :=
  Text.Utf8.toNat_ofNat h

theorem toNat_of_isDigit {c : Char} (h : c.isDigit = true) : 48 ≤ c.toNat ∧ c.toNat ≤ 57 := by
  obtain ⟨hlow, hhigh⟩ := Bool.and_eq_true_iff.mp h
  exact ⟨of_decide_eq_true hlow, of_decide_eq_true hhigh⟩

theorem isDigit_byte {c : Char} (h : c.isDigit = true) : isDigit (byte c) = true := by
  obtain ⟨hlow, hhigh⟩ := toNat_of_isDigit h
  unfold isDigit
  rw [Bool.and_eq_true, decide_eq_true_eq, decide_eq_true_eq, UInt8.le_iff_toNat_le,
    UInt8.le_iff_toNat_le, byte_toNat (by omega)]
  exact ⟨hlow, hhigh⟩

theorem digitOf_byte {c : Char} (h : c.isDigit = true) : digitOf (byte c) = c.toNat - 48 := by
  obtain ⟨-, hhigh⟩ := toNat_of_isDigit h
  unfold digitOf
  rw [byte_toNat (by omega)]

theorem digitsValue_chars (digits : List Char) :
    Text.digitsValue (digits.map fun c => c.toNat - 48) = Nat.ofDigitChars 10 digits 0 := by
  unfold Text.digitsValue
  rw [List.foldl_map, Nat.ofDigitChars_eq_foldl]
  rfl

variable {rest : Bytes}

/-- Digits are read up to what follows them. -/
theorem readDigits_append {digits : List Char} (hdigits : ∀ c ∈ digits, c.isDigit = true)
    (hne : digits ≠ []) (hrest : EndsDigits rest) :
    readDigits (digits.map byte ++ rest) = .ok (digits.map fun c => c.toNat - 48, rest) := by
  have hall : ∀ b ∈ digits.map byte, isDigit b = true := by
    intro b hb
    obtain ⟨c, hc, rfl⟩ := List.mem_map.mp hb
    exact isDigit_byte (hdigits c hc)
  have hnone : rest.takeWhile isDigit = [] := by
    cases rest with
    | nil => rfl
    | cons b more => rw [List.takeWhile_cons, hrest b rfl]; rfl
  have hsame : rest.dropWhile isDigit = rest := by
    cases rest with
    | nil => rfl
    | cons b more => rw [List.dropWhile_cons, hrest b rfl]; rfl
  have hvalues : (digits.map byte).map digitOf = digits.map fun c => c.toNat - 48 := by
    rw [List.map_map]
    exact List.map_congr_left fun c hc => digitOf_byte (hdigits c hc)
  have htake : (digits.map byte ++ rest).takeWhile isDigit = digits.map byte := by
    rw [List.takeWhile_append_of_pos hall, hnone, List.append_nil]
  have hdrop : (digits.map byte ++ rest).dropWhile isDigit = rest := by
    rw [List.dropWhile_append_of_pos hall, hsame]
  obtain ⟨first, more, rfl⟩ := List.exists_cons_of_ne_nil hne
  rw [List.map_cons, List.cons_append] at htake hdrop ⊢
  unfold readDigits
  dsimp only
  rw [if_pos (hall _ List.mem_cons_self), htake, hdrop, ← List.map_cons, hvalues]

/-! ## The parts of a number -/

/-- The parts of a number without its sign: whole digits, a fraction after a point, and the sign and
the digits of an exponent. -/
structure NumberParts where
  whole : List Char
  fraction : Option (List Char)
  exponent : Option (Bool × List Char)

namespace NumberParts

def fractionText : Option (List Char) → List Char
  | none => []
  | some digits => '.' :: digits

def exponentText : Option (Bool × List Char) → List Char
  | none => []
  | some (negative, digits) => 'e' :: (if negative then '-' else '+') :: digits

def text (parts : NumberParts) : List Char :=
  parts.whole ++ (fractionText parts.fraction ++ exponentText parts.exponent)

/-- The parts as they are read: at least one digit each, and whole digits that do not start with a
zero unless it is all there is. -/
structure Formed (parts : NumberParts) : Prop where
  whole : ∀ c ∈ parts.whole, c.isDigit = true
  whole_ne : parts.whole ≠ []
  whole_zero : parts.whole.head? = some '0' → parts.whole.length = 1
  whole_length : parts.whole.length ≤ maxIntegerDigits
  fraction : ∀ digits ∈ parts.fraction, digits ≠ [] ∧ ∀ c ∈ digits, c.isDigit = true
  exponent : ∀ p ∈ parts.exponent, p.2 ≠ [] ∧ ∀ c ∈ p.2, c.isDigit = true

theorem Formed.of_fraction {whole fraction : List Char} (hwhole : ∀ c ∈ whole, c.isDigit = true)
    (hne : whole ≠ []) (hzero : whole.head? = some '0' → whole.length = 1)
    (hlength : whole.length ≤ maxIntegerDigits) (hfraction_ne : fraction ≠ [])
    (hfraction : ∀ c ∈ fraction, c.isDigit = true) : Formed ⟨whole, some fraction, none⟩ := by
  refine ⟨hwhole, hne, hzero, hlength, fun digits hdigits => ?_, nofun⟩
  obtain rfl := Option.some.inj hdigits
  exact ⟨hfraction_ne, hfraction⟩

/-- All digits but those of the exponent. -/
def digits (parts : NumberParts) : List Char :=
  parts.whole ++ parts.fraction.getD []

/-- The exponent of the last digit. -/
def unit (parts : NumberParts) : Int :=
  (match parts.exponent with
    | none => 0
    | some (negative, digits) =>
      let value : Int := Nat.ofDigitChars 10 digits 0
      if negative then -value else value) - (parts.fraction.getD []).length

/-- The amount that the parts stand for. -/
def amount (parts : NumberParts) : ℚ :=
  Nat.ofDigitChars 10 parts.digits 0 * 10 ^ parts.unit

/-- Whole digits alone are an integer. -/
def isInteger (parts : NumberParts) : Bool :=
  parts.fraction.isNone && parts.exponent.isNone

end NumberParts

open Binary64 NumberParts

theorem endsDigits_exponentText {exponent : Option (Bool × List Char)} (hrest : EndsNumber rest) :
    EndsDigits ((exponentText exponent).map byte ++ rest) := by
  cases exponent with
  | none => exact hrest.1
  | some p =>
    intro b hb
    obtain rfl := Option.some.inj hb
    decide

theorem readFraction_append {fraction : Option (List Char)} {exponent : Option (Bool × List Char)}
    (h : ∀ digits ∈ fraction, digits ≠ [] ∧ ∀ c ∈ digits, c.isDigit = true)
    (hrest : EndsNumber rest) :
    readFraction ((fractionText fraction).map byte ++ ((exponentText exponent).map byte ++ rest)) =
      .ok (fraction.map fun digits => digits.map fun c => c.toNat - 48,
        (exponentText exponent).map byte ++ rest) := by
  cases fraction with
  | some digits =>
    obtain ⟨hne, hdigits⟩ := h digits rfl
    show readFraction (byte '.' :: (digits.map byte ++ _)) = _
    unfold readFraction
    dsimp only
    rw [if_pos rfl, readDigits_append hdigits hne (endsDigits_exponentText hrest)]
    rfl
  | none =>
    show readFraction ((exponentText exponent).map byte ++ rest) = _
    cases exponent with
    | some p => rfl
    | none =>
      cases rest with
      | nil => rfl
      | cons b more =>
        show readFraction (b :: more) = _
        unfold readFraction
        dsimp only
        rw [if_neg (hrest.2 b rfl).1]
        rfl

theorem readExponent_append {exponent : Option (Bool × List Char)}
    (h : ∀ p ∈ exponent, p.2 ≠ [] ∧ ∀ c ∈ p.2, c.isDigit = true) (hrest : EndsNumber rest) :
    readExponent ((exponentText exponent).map byte ++ rest) =
      .ok (exponent.map fun p =>
        if p.1 then -(Nat.ofDigitChars 10 p.2 0 : Int) else Nat.ofDigitChars 10 p.2 0, rest) := by
  cases exponent with
  | some p =>
    obtain ⟨negative, digits⟩ := p
    obtain ⟨hne, hdigits⟩ := h _ rfl
    have hread := readDigits_append hdigits hne hrest.1
    have hsign : splitSign (byte (if negative then '-' else '+') :: (digits.map byte ++ rest)) =
        (negative, digits.map byte ++ rest) := by
      cases negative <;> rfl
    show readExponent (byte 'e' :: byte (if negative then '-' else '+') ::
      (digits.map byte ++ rest)) = _
    unfold readExponent
    dsimp only
    rw [if_pos (Or.inl rfl), hsign]
    dsimp only
    rw [hread]
    show Except.ok (some (if negative then -((Text.digitsValue _ : Nat) : Int) else _), rest) = _
    rw [digitsValue_chars]
    rfl
  | none =>
    cases rest with
    | nil => rfl
    | cons b more =>
      obtain ⟨-, he, hE⟩ := hrest.2 b rfl
      show readExponent (b :: more) = _
      have hneither : ¬ (b = byte 'e' ∨ b = byte 'E') := fun h => h.elim he hE
      unfold readExponent
      dsimp only
      rw [if_neg hneither]
      rfl

theorem endsDigits_fractionText {fraction : Option (List Char)}
    {exponent : Option (Bool × List Char)} (hrest : EndsNumber rest) :
    EndsDigits ((fractionText fraction).map byte ++ ((exponentText exponent).map byte ++ rest)) := by
  cases fraction with
  | none => exact endsDigits_exponentText hrest
  | some digits =>
    intro b hb
    obtain rfl := Option.some.inj hb
    decide

theorem NumberParts.Formed.no_leading_zero {parts : NumberParts} (h : parts.Formed) :
    ¬ ((parts.whole.map fun c => c.toNat - 48).head? = some 0 ∧
      (parts.whole.map fun c => c.toNat - 48).length > 1) := by
  rintro ⟨hhead, hlength⟩
  rw [List.head?_map] at hhead
  obtain ⟨c, hc, hvalue⟩ := Option.map_eq_some_iff.mp hhead
  obtain ⟨hlow, hhigh⟩ := toNat_of_isDigit (h.whole c (List.mem_of_head? hc))
  have hchar : c = '0' := by
    rw [← Char.ofNat_toNat c, show c.toNat = 48 by omega]
  have hone : parts.whole.length = 1 := h.whole_zero (by rw [← hchar]; exact hc)
  rw [List.length_map] at hlength
  omega

/-- The digits of the whole and of the fraction, at the exponent of the last of them, are rounded by
the amount of the number. -/
theorem ofDecimal_parts (negative : Bool) (parts : NumberParts) :
    ofDecimal negative
      (Text.digitsValue ((parts.whole.map fun c => c.toNat - 48) ++
        (parts.fraction.map fun digits => digits.map fun c => c.toNat - 48).getD []))
      ((parts.exponent.map fun p => if p.1 then -(Nat.ofDigitChars 10 p.2 0 : Int)
          else Nat.ofDigitChars 10 p.2 0).getD 0 -
        ((parts.fraction.map fun digits => digits.map fun c => c.toNat - 48).getD []).length) =
      ofRat negative parts.amount := by
  obtain ⟨whole, fraction, exponent⟩ := parts
  have hdigits : (whole.map fun c => c.toNat - 48) ++
      (fraction.map fun digits => digits.map fun c => c.toNat - 48).getD [] =
        (whole ++ fraction.getD []).map fun c => c.toNat - 48 := by
    cases fraction with
    | none => simp
    | some digits => exact List.map_append.symm
  have hlength : ((fraction.map fun digits => digits.map fun c => c.toNat - 48).getD []).length =
      (fraction.getD []).length := by
    cases fraction with
    | none => rfl
    | some digits => exact List.length_map _
  rw [hdigits, hlength, digitsValue_chars, ofDecimal_eq]
  cases exponent <;> rfl

theorem readUnsigned_parts (negative : Bool) {parts : NumberParts} (h : parts.Formed)
    (hrest : EndsNumber rest) :
    readUnsigned negative (parts.text.map byte ++ rest) =
      .ok (if parts.isInteger then
          .int (if negative then -(Nat.ofDigitChars 10 parts.whole 0 : Int)
            else Nat.ofDigitChars 10 parts.whole 0)
        else .float (.ofRat negative parts.amount), rest) := by
  have hfloat := ofDecimal_parts negative parts
  have hzero := h.no_leading_zero
  obtain ⟨whole, fraction, exponent⟩ := parts
  have htext : (NumberParts.text ⟨whole, fraction, exponent⟩).map byte ++ rest = whole.map byte ++
      ((fractionText fraction).map byte ++ ((exponentText exponent).map byte ++ rest)) := by
    unfold NumberParts.text
    rw [List.map_append, List.map_append, List.append_assoc, List.append_assoc]
  have hlength : ¬ (whole.map fun c => c.toNat - 48).length > maxIntegerDigits := by
    rw [List.length_map]
    exact Nat.not_lt.mpr h.whole_length
  rw [htext]
  unfold readUnsigned
  rw [readDigits_append h.whole h.whole_ne (endsDigits_fractionText hrest)]
  show (if _ then _ else if _ then _ else (readFraction _ >>= _)) = _
  rw [if_neg hzero, if_neg hlength, readFraction_append h.fraction hrest]
  show (readExponent _ >>= _) = _
  rw [readExponent_append h.exponent hrest]
  -- Only digits alone are an integer; a fraction or an exponent makes the number a float.
  cases fraction with
  | some digits => exact congrArg (fun x => Except.ok (Json.float x, rest)) hfloat
  | none =>
    cases exponent with
    | some p => exact congrArg (fun x => Except.ok (Json.float x, rest)) hfloat
    | none =>
      show Except.ok (Json.int (if negative then -((Text.digitsValue _ : Nat) : Int) else
        ((Text.digitsValue _ : Nat) : Int)), rest) = _
      rw [digitsValue_chars]
      rfl

/-! ## Layouts -/

/-- A text of digits and its parts: a float of the amount of the digits. -/
structure LaidOut (digits : List Char) (exponent : Int) (text : List Char)
    (parts : NumberParts) : Prop where
  text : parts.text = text
  formed : parts.Formed
  float : parts.isInteger = false
  amount : parts.amount = decimalAmount digits exponent

theorem isDigit_of_zero : ∀ c ∈ ['0'], c.isDigit = true :=
  List.forall_mem_singleton.mpr rfl

theorem isDigit_of_replicate {n : Nat} {c : Char} (h : c ∈ List.replicate n '0') :
    c.isDigit = true := by
  rw [List.eq_of_mem_replicate h]
  rfl

theorem isDigit_digitsOf {n : Nat} {c : Char} (h : c ∈ digitsOf n) : c.isDigit = true :=
  Nat.isDigit_of_mem_toDigits (by decide) (by decide) h

variable {digits : List Char} {exponent : Int}

/-- An amount below one, with zeros after the point. -/
theorem positional_small (h : IsNumeral digits) (hexponent : exponent < 0) :
    ∃ parts, LaidOut digits exponent (positional digits exponent) parts := by
  obtain ⟨first, rest, hdigits, -⟩ := h.head
  refine ⟨⟨['0'], some (List.replicate ((-exponent).toNat - 1) '0' ++ digits), none⟩, ?_, ?_, rfl, ?_⟩
  · unfold positional
    rw [if_pos hexponent]
    show ['0'] ++ ('.' :: (_ ++ digits) ++ []) = _
    rw [List.append_nil]
    rfl
  · have hne : digits ≠ [] := hdigits ▸ List.cons_ne_nil _ _
    refine .of_fraction isDigit_of_zero (by decide) (fun _ => rfl) (by decide)
      (List.append_ne_nil_of_right_ne_nil _ hne) fun c hc => ?_
    rcases List.mem_append.mp hc with hzero | hdigit
    · exact isDigit_of_replicate hzero
    · exact h.digit c hdigit
  · have hvalue : Nat.ofDigitChars 10
        (['0'] ++ (List.replicate ((-exponent).toNat - 1) '0' ++ digits)) 0 =
          Nat.ofDigitChars 10 digits 0 := by
      rw [Nat.ofDigitChars_append, Nat.ofDigitChars_append]
      show Nat.ofDigitChars 10 digits (Nat.ofDigitChars 10 (List.replicate _ '0') 0) = _
      rw [Nat.ofDigitChars_replicate_zero, Nat.mul_zero]
    have hunit : (0 : Int) - (List.replicate ((-exponent).toNat - 1) '0' ++ digits).length =
        exponent + 1 - digits.length := by
      rw [List.length_append, List.length_replicate]
      omega
    show (Nat.ofDigitChars 10 (['0'] ++ (List.replicate _ '0' ++ digits)) 0 : ℚ) *
      10 ^ ((0 : Int) - (List.replicate _ '0' ++ digits).length) = _
    rw [hvalue, hunit, decimalAmount]

/-- Whole digits that end before the point, filled up with zeros. -/
theorem positional_whole (h : IsNumeral digits) {count : Nat} (hcount : exponent + 1 = count)
    (hlength : digits.length ≤ count) (hshort : count ≤ maxIntegerDigits) :
    LaidOut digits exponent (digits ++ List.replicate (count - digits.length) '0' ++ ['.', '0'])
      ⟨digits ++ List.replicate (count - digits.length) '0', some ['0'], none⟩ := by
  obtain ⟨first, rest, hdigits, hne⟩ := h.head
  refine ⟨?_, ?_, rfl, ?_⟩
  · rfl
  · refine .of_fraction (fun c hc => ?_) ?_ ?_ ?_ (by decide) isDigit_of_zero
    · rcases List.mem_append.mp hc with hdigit | hzero
      · exact h.digit c hdigit
      · exact isDigit_of_replicate hzero
    · rw [hdigits]
      exact List.cons_ne_nil _ _
    · rw [hdigits]
      intro hhead
      exact absurd (Option.some.inj hhead) hne
    · rw [List.length_append, List.length_replicate]
      omega
  · have hvalue : (Nat.ofDigitChars 10
        (digits ++ List.replicate (count - digits.length) '0' ++ ['0']) 0 : ℚ) =
          Nat.ofDigitChars 10 digits 0 * 10 ^ (count - digits.length) * 10 := by
      rw [Nat.ofDigitChars_append, Nat.ofDigitChars_append, Nat.ofDigitChars_replicate_zero]
      show ((10 * (10 ^ (count - digits.length) * Nat.ofDigitChars 10 digits 0) + 0 : Nat) : ℚ) = _
      push_cast
      ring
    have hunit : exponent + 1 - (digits.length : Int) = ((count - digits.length : Nat) : Int) := by
      omega
    show (Nat.ofDigitChars 10 (_ ++ ['0']) 0 : ℚ) * 10 ^ ((0 : Int) - ['0'].length) = _
    rw [hvalue, decimalAmount, hunit, zpow_natCast, mul_assoc]
    show _ * (10 * (10 : ℚ) ^ (-1 : Int)) = _
    norm_num

/-- Digits on either side of the point. -/
theorem positional_split (h : IsNumeral digits) {count : Nat} (hcount : exponent + 1 = count)
    (hpos : 0 < count) (hlength : count < digits.length) (hshort : count ≤ maxIntegerDigits) :
    LaidOut digits exponent (digits.take count ++ '.' :: digits.drop count)
      ⟨digits.take count, some (digits.drop count), none⟩ := by
  obtain ⟨first, rest, hdigits, hne⟩ := h.head
  have hhead : digits.take count = first :: rest.take (count - 1) := by
    obtain ⟨n, rfl⟩ : ∃ n, count = n + 1 := ⟨count - 1, by omega⟩
    rw [hdigits, List.take_succ_cons]
    rfl
  refine ⟨?_, ?_, rfl, ?_⟩
  · show digits.take count ++ ('.' :: digits.drop count ++ []) = _
    rw [List.append_nil]
  · refine .of_fraction (fun c hc => h.digit c (List.mem_of_mem_take hc)) ?_ ?_ ?_ ?_
      fun c hc => h.digit c (List.mem_of_mem_drop hc)
    · rw [hhead]
      exact List.cons_ne_nil _ _
    · intro hzero
      rw [hhead] at hzero
      exact absurd (Option.some.inj hzero) hne
    · rw [List.length_take]
      omega
    · rw [Ne, List.drop_eq_nil_iff]
      omega
  · have hunit : (0 : Int) - (digits.drop count).length = exponent + 1 - digits.length := by
      rw [List.length_drop]
      omega
    show (Nat.ofDigitChars 10 (digits.take count ++ digits.drop count) 0 : ℚ) *
      10 ^ ((0 : Int) - (digits.drop count).length) = _
    rw [List.take_append_drop, hunit, decimalAmount]

theorem exponent_value (width : Nat) (exponent : Int) :
    (if exponent < 0 then -(Nat.ofDigitChars 10 (padLeft width (digitsOf exponent.natAbs)) 0 : Int)
      else Nat.ofDigitChars 10 (padLeft width (digitsOf exponent.natAbs)) 0) = exponent := by
  have hvalue : Nat.ofDigitChars 10 (padLeft width (digitsOf exponent.natAbs)) 0 =
      exponent.natAbs := by
    unfold padLeft
    rw [Nat.ofDigitChars_append, Nat.ofDigitChars_replicate_zero, Nat.mul_zero]
    exact Nat.ofDigitChars_ten_toDigits
  rw [hvalue]
  split <;> omega

theorem isDigit_padLeft (width n : Nat) : padLeft width (digitsOf n) ≠ [] ∧
    ∀ c ∈ padLeft width (digitsOf n), c.isDigit = true := by
  refine ⟨List.append_ne_nil_of_right_ne_nil _ Nat.toDigits_ne_nil, fun c hc => ?_⟩
  rcases List.mem_append.mp hc with hzero | hdigit
  · exact isDigit_of_replicate hzero
  · exact isDigit_digitsOf hdigit

/-- One digit before the point, the others after it, and an exponent. -/
theorem scientific_parts (width : Nat) (h : IsNumeral digits) (exponent : Int) :
    ∃ parts, LaidOut digits exponent (scientific width digits exponent) parts := by
  obtain ⟨first, rest, rfl, hne⟩ := h.head
  have hexponent := exponent_value width exponent
  have htext : scientific width (first :: rest) exponent =
      [first] ++ ((if rest = [] then [] else '.' :: rest) ++
        'e' :: (if exponent < 0 then '-' else '+') :: padLeft width (digitsOf exponent.natAbs)) := by
    cases rest <;> rfl
  have hpower := isDigit_padLeft width exponent.natAbs
  rw [htext]
  generalize padLeft width (digitsOf exponent.natAbs) = power at hexponent hpower
  refine ⟨⟨[first], if rest = [] then none else some rest, some (decide (exponent < 0), power)⟩,
    ?_, ?_, ?_, ?_⟩
  · by_cases hrest : rest = [] <;> by_cases hneg : exponent < 0 <;>
      simp [NumberParts.text, NumberParts.fractionText, NumberParts.exponentText, hrest, hneg]
  · refine ⟨?_, List.cons_ne_nil _ _, fun _ => rfl, Nat.le_of_ble_eq_true rfl, ?_, ?_⟩
    · intro c hc
      exact h.digit c (List.mem_cons.mpr (.inl (List.mem_singleton.mp hc)))
    · intro fraction hfraction
      by_cases hrest : rest = []
      · rw [if_pos hrest] at hfraction
        cases hfraction
      · rw [if_neg hrest] at hfraction
        obtain rfl := Option.some.inj hfraction
        exact ⟨hrest, fun c hc => h.digit c (List.mem_cons_of_mem _ hc)⟩
    · intro p hp
      obtain rfl := Option.some.inj hp
      exact hpower
  · exact Bool.and_false _
  · have hrest : (if rest = [] then none else some rest : Option (List Char)).getD [] = rest := by
      split
      next hnil => rw [hnil]; rfl
      next => rfl
    have hunit : NumberParts.unit ⟨[first], if rest = [] then none else some rest,
        some (decide (exponent < 0), power)⟩ = exponent + 1 - ((first :: rest).length : Int) := by
      have hvalue : (if decide (exponent < 0) = true then -(Nat.ofDigitChars 10 power 0 : Int)
          else Nat.ofDigitChars 10 power 0) = exponent := by
        simpa only [decide_eq_true_eq] using hexponent
      unfold NumberParts.unit
      dsimp only
      rw [hrest, hvalue, List.length_cons]
      push_cast
      ring
    unfold NumberParts.amount NumberParts.digits
    dsimp only
    rw [hunit, hrest]
    rfl

theorem positional_parts (h : IsNumeral digits) (hshort : exponent < 16) :
    ∃ parts, LaidOut digits exponent (positional digits exponent) parts := by
  by_cases hsmall : exponent < 0
  · exact positional_small h hsmall
  have hcount : exponent + 1 = ((exponent.toNat + 1 : Nat) : Int) := by omega
  have hmost : exponent.toNat + 1 ≤ maxIntegerDigits := by
    unfold maxIntegerDigits
    omega
  unfold positional
  rw [if_neg hsmall]
  dsimp only
  by_cases hlength : digits.length ≤ exponent.toNat + 1
  · have htake : digits.take (exponent.toNat + 1) = digits := List.take_of_length_le hlength
    have hdrop : digits.drop (exponent.toNat + 1) = [] := List.drop_eq_nil_of_le hlength
    rw [htake, hdrop]
    exact ⟨_, positional_whole h hcount hlength hmost⟩
  · have hlt : exponent.toNat + 1 < digits.length := by omega
    have hfilled : exponent.toNat + 1 - (digits.take (exponent.toNat + 1)).length = 0 := by
      rw [List.length_take]
      omega
    have hrest : (digits.drop (exponent.toNat + 1)).isEmpty = false := by
      rw [List.isEmpty_eq_false_iff, Ne, List.drop_eq_nil_iff]
      omega
    rw [hfilled, hrest, List.replicate_zero, List.append_nil]
    exact ⟨_, positional_split h hcount (Nat.succ_pos _) hlt hmost⟩

/-- The text of the absolute value of a number, by its parts, is rounded to the number. -/
theorem exists_parts_of_magnitudeText (layout : Layout) (negative : Bool) {significand : Nat}
    {exponent : Int} (h : Canonical significand exponent) :
    ∃ parts : NumberParts, parts.text = magnitudeText layout significand exponent h ∧
      parts.Formed ∧ parts.isInteger = false ∧
      ofRat negative parts.amount = .finite negative significand exponent h := by
  unfold magnitudeText
  by_cases hzero : significand = 0
  · refine ⟨⟨['0'], some ['0'], none⟩, ?_, ?_, rfl, ?_⟩
    · rw [if_pos hzero]
      rfl
    · exact .of_fraction isDigit_of_zero (by decide) (fun _ => rfl) (by decide) (by decide)
        isDigit_of_zero
    · have hexponent : exponent = -1074 := by
        rcases h.2.2.2 with hfull | hleast
        · rw [hzero] at hfull
          exact absurd hfull (by decide)
        · exact hleast
      subst hzero hexponent
      have hamount : amount ⟨['0'], some ['0'], none⟩ = 0 := by
        show ((0 : Nat) : ℚ) * _ = 0
        rw [Nat.cast_zero, zero_mul]
      rw [hamount, ofRat, if_pos rfl]
      rfl
  · obtain ⟨hnumeral, hreads⟩ := shortest_readsBack negative h (Nat.pos_of_ne_zero hzero)
    rw [if_neg hzero]
    generalize shortest significand exponent h = found at hnumeral hreads
    obtain ⟨digits, leading⟩ := found
    have hlaid : ∃ parts, LaidOut digits leading (if layout.leastPositional ≤ leading ∧ leading < 16
        then positional digits leading else scientific layout.exponentWidth digits leading)
        parts := by
      split
      next hlayout => exact positional_parts hnumeral hlayout.2
      next => exact scientific_parts layout.exponentWidth hnumeral leading
    obtain ⟨parts, htext, hformed, hfloat, hamount⟩ := hlaid
    exact ⟨parts, htext, hformed, hfloat, by rw [hamount]; exact hreads⟩

/-! ## Reading back -/

/-- A number starts with a digit or a minus. -/
def StartsNumber (text : Bytes) : Prop :=
  ∃ b rest, text = b :: rest ∧ (b = byte '-' ∨ isDigit b = true)

theorem NumberParts.Formed.ascii {parts : NumberParts} (h : parts.Formed) :
    ∀ c ∈ parts.text, c.toNat < 128 := by
  have hdigit {c : Char} (hc : c.isDigit = true) : c.toNat < 128 := by
    have hbounds := toNat_of_isDigit hc
    omega
  intro c hc
  rcases List.mem_append.mp hc with hwhole | hc
  · exact hdigit (h.whole c hwhole)
  rcases List.mem_append.mp hc with hfraction | hexponent
  · cases hparts : parts.fraction with
    | none => rw [hparts] at hfraction; cases hfraction
    | some digits =>
      rw [hparts] at hfraction
      rcases List.mem_cons.mp hfraction with rfl | hmem
      · decide
      · exact hdigit ((h.fraction digits hparts).2 c hmem)
  · cases hparts : parts.exponent with
    | none => rw [hparts] at hexponent; cases hexponent
    | some p =>
      rw [hparts] at hexponent
      rcases List.mem_cons.mp hexponent with rfl | hmem
      · decide
      rcases List.mem_cons.mp hmem with rfl | hmem
      · split <;> decide
      · exact hdigit ((h.exponent p hparts).2 c hmem)

/-- The text of a number with its sign is read as the number. -/
theorem readNumber_parts (nonFinite negative : Bool) {parts : NumberParts} (h : parts.Formed)
    (rest : Bytes) :
    StartsNumber ((if negative then '-' :: parts.text else parts.text).flatMap
        String.utf8EncodeChar) ∧
      readNumber nonFinite ((if negative then '-' :: parts.text else parts.text).flatMap
          String.utf8EncodeChar ++ rest) =
        readUnsigned negative (parts.text.map byte ++ rest) := by
  have hbytes : parts.text.flatMap String.utf8EncodeChar = parts.text.map byte :=
    Text.Utf8.flatMap_ascii h.ascii
  obtain ⟨first, more, hwhole⟩ := List.exists_cons_of_ne_nil h.whole_ne
  have hdigit : isDigit (byte first) = true :=
    isDigit_byte (h.whole first (hwhole ▸ List.mem_cons_self))
  have htext : parts.text.map byte =
      byte first :: (more ++ (fractionText parts.fraction ++ exponentText parts.exponent)).map byte := by
    unfold NumberParts.text
    rw [hwhole]
    rfl
  have hother {c : Char} (hc : isDigit (byte c) = false) : byte first ≠ byte c := by
    intro heq
    rw [heq, hc] at hdigit
    cases hdigit
  cases negative with
  | false =>
    rw [if_neg Bool.false_ne_true, hbytes, htext]
    refine ⟨⟨_, _, rfl, .inr hdigit⟩, ?_⟩
    rw [List.cons_append]
    unfold readNumber
    dsimp only
    rw [if_neg (hother rfl)]
  | true =>
    have hminus : (('-' :: parts.text).flatMap String.utf8EncodeChar) =
        byte '-' :: parts.text.map byte := by
      rw [List.flatMap_cons, hbytes, Text.Utf8.utf8EncodeChar_ascii (by decide)]
      rfl
    rw [if_pos rfl, hminus, htext]
    refine ⟨⟨_, _, rfl, .inl rfl⟩, ?_⟩
    rw [List.cons_append, List.cons_append]
    unfold readNumber
    dsimp only
    have hletter : (byte first == byte 'I') = false := beq_eq_false_iff_ne.mpr (hother rfl)
    rw [if_pos rfl, hletter, Bool.and_false]
    rfl

theorem readNumber_float (nonFinite : Bool) {x : Binary64} (hfinite : x.isFinite = true) (layout : Layout)
    (hrest : EndsNumber rest) :
    StartsNumber (Text.Utf8.encode (x.text layout)) ∧
      readNumber nonFinite (Text.Utf8.encode (x.text layout) ++ rest) = .ok (.float x, rest) := by
  cases x with
  | nan => cases hfinite
  | infinity negative => cases hfinite
  | finite negative significand exponent h =>
    obtain ⟨parts, htext, hformed, hfloat, hreads⟩ :=
      exists_parts_of_magnitudeText layout negative h
    obtain ⟨hstarts, hnumber⟩ := readNumber_parts nonFinite negative hformed rest
    have hencode : Text.Utf8.encode ((Binary64.finite negative significand exponent h).text layout) =
        (if negative then '-' :: parts.text else parts.text).flatMap String.utf8EncodeChar := by
      rw [htext]
      exact Text.Utf8.encode_ofList _
    rw [hencode]
    refine ⟨hstarts, ?_⟩
    rw [hnumber, readUnsigned_parts negative hformed hrest, hfloat, hreads]
    rfl

theorem toString_int (i : Int) :
    toString i = String.ofList (if decide (i < 0) then '-' :: digitsOf i.natAbs
      else digitsOf i.natAbs) := by
  cases i with
  | ofNat n =>
    show n.repr = _
    rw [Nat.repr_eq_ofList_toDigits]
    rfl
  | negSucc n =>
    show "-" ++ (n + 1).repr = _
    have hneg : decide (Int.negSucc n < 0) = true := decide_eq_true (Int.negSucc_lt_zero n)
    rw [Nat.repr_eq_ofList_toDigits, hneg, if_pos rfl, ← String.toList_inj, String.toList_append,
      String.toList_ofList, String.toList_ofList, String.toList_ofList]
    rfl

/-- An integer is read back from its text unless it has too many digits. -/
theorem readNumber_int (nonFinite : Bool) {i : Int} (hsize : i.natAbs < 10 ^ maxIntegerDigits)
    (hrest : EndsNumber rest) :
    StartsNumber (Text.Utf8.encode (toString i)) ∧
      readNumber nonFinite (Text.Utf8.encode (toString i) ++ rest) = .ok (.int i, rest) := by
  set parts : NumberParts := ⟨digitsOf i.natAbs, none, none⟩ with hparts
  have hformed : parts.Formed := by
    refine ⟨fun c hc => isDigit_digitsOf hc, Nat.toDigits_ne_nil, fun hhead => ?_, ?_, nofun, nofun⟩
    · change (digitsOf i.natAbs).head? = some '0' at hhead
      show (digitsOf i.natAbs).length = 1
      by_cases hzero : i.natAbs = 0
      · rw [hzero]
        rfl
      · obtain ⟨first, more, hdigits, hne⟩ :=
          (isNumeral_digitsOf (Nat.pos_of_ne_zero hzero)).head
        rw [hdigits] at hhead
        exact absurd (Option.some.inj hhead) hne
    · exact (Nat.length_toDigits_le_iff (by decide) (by decide)).mpr hsize
  have htext : parts.text = digitsOf i.natAbs := List.append_nil _
  have hvalue : Nat.ofDigitChars 10 parts.whole 0 = i.natAbs := Nat.ofDigitChars_ten_toDigits
  have hinteger : parts.isInteger = true := rfl
  obtain ⟨hstarts, hnumber⟩ := readNumber_parts nonFinite (decide (i < 0)) hformed rest
  rw [toString_int, Text.Utf8.encode_ofList, ← htext]
  refine ⟨hstarts, ?_⟩
  rw [hnumber, readUnsigned_parts _ hformed hrest, hinteger, hvalue, if_pos rfl]
  by_cases hneg : i < 0
  · rw [decide_eq_true hneg, if_pos rfl, show -(i.natAbs : Int) = i by omega]
  · rw [decide_eq_false hneg, if_neg Bool.false_ne_true, show (i.natAbs : Int) = i by omega]

end Json
end Schematic
