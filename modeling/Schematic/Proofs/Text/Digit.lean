import Mathlib.Data.List.Forall2
import Mathlib.Data.List.Induction
import Mathlib.Tactic.Ring
import Schematic.Text.Digit

/-!
Texts of digits and the numbers that they spell.  `Spells` is for any notion of a digit; the digits of
any script are one, and the ASCII digits are those among them that are ASCII characters.
-/

namespace Schematic
namespace Text

/-! ## Values -/

variable {digits : List Nat}

theorem digitsValue_append (digits : List Nat) (digit : Nat) :
    digitsValue (digits ++ [digit]) = 10 * digitsValue digits + digit := by
  rw [digitsValue, List.foldl_append]
  rfl

theorem digitsValue_append_list (ahead behind : List Nat) :
    digitsValue (ahead ++ behind) = digitsValue ahead * 10 ^ behind.length + digitsValue behind := by
  induction behind using List.reverseRecOn with
  | nil => simp [digitsValue]
  | append_singleton behind digit ih =>
    rw [← List.append_assoc, digitsValue_append, digitsValue_append, ih, List.length_append,
      List.length_singleton, Nat.pow_succ]
    ring

theorem digitsValue_lt (h : ∀ digit ∈ digits, digit < 10) :
    digitsValue digits < 10 ^ digits.length := by
  induction digits using List.reverseRecOn with
  | nil => decide
  | append_singleton digits digit ih =>
    rw [List.forall_mem_append, List.forall_mem_singleton] at h
    have hinit := ih h.1
    rw [digitsValue_append, List.length_append, List.length_singleton, Nat.pow_succ]
    omega

/-! ## Digits -/

theorem decimalDigit?_digitChar {n : Nat} (h : n < 10) :
    decimalDigit? (digitChar n) = some n := by
  have hall : ∀ n : Fin 10, decimalDigit? (digitChar n) = some n.val := by decide
  exact hall ⟨n, h⟩

theorem decimalDigit?_eq_some {c : Char} {value : Nat} (h : decimalDigit? c = some value) :
    ∃ first ∈ decimalZeros, c.toNat = first + value ∧ value < 10 := by
  obtain ⟨first, hfound, rfl⟩ := Option.map_eq_some_iff.mp h
  have hrange := List.find?_some hfound
  simp only [Bool.and_eq_true, decide_eq_true_eq] at hrange
  refine ⟨first, List.mem_of_find?_eq_some hfound, ?_, ?_⟩ <;> omega

/-- The first run of digits is the only one in ASCII. -/
theorem eq_of_mem_decimalZeros : ∀ first ∈ decimalZeros, first < 128 → first = 48 := by
  decide

theorem asciiDigit?_eq_some_iff {c : Char} {value : Nat} :
    asciiDigit? c = some value ↔ c.toNat < 128 ∧ decimalDigit? c = some value := by
  have hrange : ('0' ≤ c ∧ c ≤ '9') ↔ 48 ≤ c.toNat ∧ c.toNat ≤ 57 := Iff.rfl
  unfold asciiDigit?
  constructor
  · intro h
    split at h
    next hdigit =>
      obtain rfl := Option.some.inj h
      rw [hrange] at hdigit
      have hfirst : decimalZeros.find? (fun first => first ≤ c.toNat && c.toNat < first + 10) =
          some 48 :=
        List.find?_cons_of_pos (by simp; omega)
      rw [decimalDigit?, hfirst]
      exact ⟨by omega, rfl⟩
    next => cases h
  · rintro ⟨hlt, h⟩
    obtain ⟨first, hfirst, hvalue, hten⟩ := decimalDigit?_eq_some h
    obtain rfl := eq_of_mem_decimalZeros first hfirst (by omega)
    rw [if_pos (hrange.mpr (by omega)), hvalue, Nat.add_sub_cancel_left]

/-! ## Texts -/

/-- A text of digits, character by character, and their values. -/
def Spells (digit? : Char → Option Nat) (s : List Char) (digits : List Nat) : Prop :=
  List.Forall₂ (fun c value => digit? c = some value) s digits

variable {digit? other? : Char → Option Nat} {s : List Char}

theorem mapM_eq_some_iff : s.mapM digit? = some digits ↔ Spells digit? s digits := by
  unfold Spells
  induction s generalizing digits with
  | nil => simp [eq_comm]
  | cons c rest ih =>
    simp only [List.mapM_cons, Option.pure_def, Option.bind_eq_bind, Option.bind_eq_some_iff,
      List.forall₂_cons_left_iff, ih]
    constructor
    · rintro ⟨value, hvalue, values, hvalues, heq⟩
      exact ⟨value, values, hvalue, hvalues, (Option.some.inj heq).symm⟩
    · rintro ⟨value, values, hvalue, hvalues, rfl⟩
      exact ⟨value, hvalue, values, hvalues, rfl⟩

theorem decimalDigits?_eq_some_iff :
    decimalDigits? s = some digits ↔ Spells decimalDigit? s digits :=
  mapM_eq_some_iff

namespace Spells

theorem length_eq (h : Spells digit? s digits) : s.length = digits.length :=
  List.Forall₂.length_eq h

theorem isSome (h : Spells digit? s digits) : ∀ c ∈ s, (digit? c).isSome = true := by
  intro c hc
  induction h with
  | nil => cases hc
  | cons hvalue _ ih =>
    rcases List.mem_cons.mp hc with rfl | hrest
    · simp [hvalue]
    · exact ih hrest

theorem lt_ten (h : Spells decimalDigit? s digits) : ∀ digit ∈ digits, digit < 10 := by
  intro digit hdigit
  induction h with
  | nil => cases hdigit
  | cons hvalue _ ih =>
    rcases List.mem_cons.mp hdigit with rfl | hrest
    · obtain ⟨_, _, _, hlt⟩ := decimalDigit?_eq_some hvalue
      exact hlt
    · exact ih hrest

theorem mono (h : Spells digit? s digits)
    (hsame : ∀ c ∈ s, ∀ value, digit? c = some value → other? c = some value) :
    Spells other? s digits := by
  induction h with
  | nil => exact .nil
  | cons hvalue _ ih =>
    obtain ⟨hhead, htail⟩ := List.forall_mem_cons.mp hsame
    exact .cons (hhead _ hvalue) (ih htail)

end Spells

theorem lt_ten_of_asciiDigits? (h : asciiDigits? s = some digits) : ∀ digit ∈ digits, digit < 10 :=
  ((mapM_eq_some_iff.mp h).mono fun _ _ _ hvalue => (asciiDigit?_eq_some_iff.mp hvalue).2).lt_ten

end Text
end Schematic
