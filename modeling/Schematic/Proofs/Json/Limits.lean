import Schematic.Proofs.Json.RoundTrip
import Schematic.Proofs.Text.Digit

/-!
What is read from a text is limited: its integers have no more digits than are read, and its containers
are not nested too deep.  The reader goes down with its steps, so the proof is an induction on them,
with one statement for each of its loops.
-/

namespace Schematic
namespace Json

open Outcome (bind_eq_ok)

/-- A document as it can come from a text. -/
abbrev IsRead (room : Nat) (json : Json) : Prop :=
  Limited (fun _ => True) room json

/-! ## Numbers -/

theorem digitOf_lt {b : UInt8} (h : isDigit b = true) : digitOf b < 10 := by
  obtain ⟨-, hhigh⟩ := Bool.and_eq_true_iff.mp h
  have hle := UInt8.le_iff_toNat_le.mp (of_decide_eq_true hhigh)
  have hnine : (0x39 : UInt8).toNat = 57 := rfl
  unfold digitOf
  omega

theorem digits_of_readDigits {s rest : Bytes} {digits : List Nat}
    (h : readDigits s = .ok (digits, rest)) : ∀ digit ∈ digits, digit < 10 := by
  unfold readDigits at h
  split at h
  next => cases h
  next b more =>
    split at h
    next =>
      obtain rfl := (Prod.mk.inj (Except.ok.inj h)).1
      intro digit hdigit
      obtain ⟨c, hc, rfl⟩ := List.mem_map.mp hdigit
      exact digitOf_lt (List.all_eq_true.mp List.all_takeWhile c hc)
    next => cases h

theorem isRead_of_readUnsigned {negative : Bool} {s rest : Bytes} {json : Json}
    (h : readUnsigned negative s = .ok (json, rest)) (room : Nat) : IsRead room json := by
  unfold readUnsigned at h
  obtain ⟨⟨whole, more⟩, hwhole, h⟩ := bind_eq_ok h
  dsimp only at h
  split at h
  next => cases h
  split at h
  next => cases h
  next hlength =>
    obtain ⟨⟨fraction, more⟩, -, h⟩ := bind_eq_ok h
    obtain ⟨⟨exponent, more⟩, -, h⟩ := bind_eq_ok h
    dsimp only at h
    split at h
    next =>
      obtain rfl := (Prod.mk.inj (Except.ok.inj h)).1
      have hlt : Text.digitsValue whole < 10 ^ maxIntegerDigits :=
        lt_of_lt_of_le (Text.digitsValue_lt (digits_of_readDigits hwhole))
          (Nat.pow_le_pow_right (by decide) (by omega))
      refine .int ?_
      split
      · rw [Int.natAbs_neg]
        exact hlt
      · exact hlt
    next =>
      obtain rfl := (Prod.mk.inj (Except.ok.inj h)).1
      exact .float trivial

theorem value_of_readWord {α : Type} {value found : α} {word s rest : Bytes}
    (h : readWord value word s = .ok (found, rest)) : found = value := by
  induction word generalizing s with
  | nil => exact (Prod.mk.inj (Except.ok.inj h)).1.symm
  | cons expected more ih =>
    unfold readWord at h
    cases s with
    | nil => cases h
    | cons b tail =>
      dsimp only at h
      split at h
      next => exact ih h
      next => cases h

theorem isRead_of_readNumber {nonFinite : Bool} {s rest : Bytes} {json : Json}
    (h : readNumber nonFinite s = .ok (json, rest)) (room : Nat) : IsRead room json := by
  unfold readNumber at h
  split at h
  next => cases h
  split at h
  next =>
    split at h
    next =>
      split at h
      next =>
        rw [value_of_readWord h]
        exact .float trivial
      next => exact isRead_of_readUnsigned h room
    next => cases h
  next => exact isRead_of_readUnsigned h room

/-! ## Containers -/

/-- The loops of the reader with a number of steps give what is limited. -/
structure ReadsLimited (nonFinite : Bool) (fuel : Nat) : Prop where
  value : ∀ {depth s json rest}, readValue nonFinite fuel depth s = .ok (json, rest) →
    depth ≤ maxDepth ∧ IsRead (maxDepth - depth) json
  items : ∀ {depth s items rest}, readItems nonFinite fuel depth s = .ok (items, rest) →
    ∀ item ∈ items, depth ≤ maxDepth ∧ IsRead (maxDepth - depth) item
  moreItems : ∀ {depth s items rest}, readMoreItems nonFinite fuel depth s = .ok (items, rest) →
    ∀ item ∈ items, depth ≤ maxDepth ∧ IsRead (maxDepth - depth) item
  members : ∀ {depth s members rest}, readMembers nonFinite fuel depth s = .ok (members, rest) →
    ∀ p ∈ members, depth ≤ maxDepth ∧ IsRead (maxDepth - depth) p.2
  moreMembers : ∀ {depth s members rest},
    readMoreMembers nonFinite fuel depth s = .ok (members, rest) →
      ∀ p ∈ members, depth ≤ maxDepth ∧ IsRead (maxDepth - depth) p.2

variable {nonFinite : Bool} {fuel depth : Nat} {s rest : Bytes}

theorem isRead_array {items : List Json}
    (h : ∀ item ∈ items, depth + 1 ≤ maxDepth ∧ IsRead (maxDepth - (depth + 1)) item) :
    IsRead (maxDepth - depth) (.array items) := by
  refine .array (fun hne => ?_) fun item hitem => ?_
  · obtain ⟨item, hitem⟩ := List.exists_mem_of_ne_nil items hne
    have hdeeper := (h item hitem).1
    omega
  · rw [Nat.sub_sub]
    exact (h item hitem).2

theorem isRead_object {members : List (String × Json)}
    (h : ∀ p ∈ members, depth + 1 ≤ maxDepth ∧ IsRead (maxDepth - (depth + 1)) p.2) :
    IsRead (maxDepth - depth) (.object members) := by
  refine .object (fun hne => ?_) fun p hp => ?_
  · obtain ⟨p, hp⟩ := List.exists_mem_of_ne_nil members hne
    have hdeeper := (h p hp).1
    omega
  · rw [Nat.sub_sub]
    exact (h p hp).2

theorem isRead_value (ih : ReadsLimited nonFinite fuel) {json : Json}
    (h : readValue nonFinite (fuel + 1) depth s = .ok (json, rest)) :
    depth ≤ maxDepth ∧ IsRead (maxDepth - depth) json := by
  rw [readValue] at h
  cases hskip : skipSpace s with
  | nil => rw [hskip] at h; cases h
  | cons b more =>
    rw [hskip] at h
    dsimp only at h
    by_cases hdepth : depth > maxDepth
    · rw [if_pos hdepth] at h
      cases h
    rw [if_neg hdepth] at h
    have hle : depth ≤ maxDepth := Nat.not_lt.mp hdepth
    refine ⟨hle, ?_⟩
    have hword {value found : Json} {word s : Bytes} (hvalue : IsRead (maxDepth - depth) value)
        (hread : readWord value word s = .ok (found, rest)) : IsRead (maxDepth - depth) found :=
      value_of_readWord hread ▸ hvalue
    by_cases hstring : b = byte '"'
    · rw [if_pos hstring] at h
      obtain ⟨⟨text, more⟩, -, h⟩ := bind_eq_ok h
      obtain rfl := (Prod.mk.inj (Except.ok.inj h)).1
      exact .str text
    rw [if_neg hstring] at h
    by_cases hlist : b = byte '['
    · rw [if_pos hlist] at h
      obtain ⟨⟨items, more⟩, hitems, h⟩ := bind_eq_ok h
      obtain rfl := (Prod.mk.inj (Except.ok.inj h)).1
      exact isRead_array (ih.items hitems)
    rw [if_neg hlist] at h
    by_cases hobject : b = byte '\x7b'
    · rw [if_pos hobject] at h
      obtain ⟨⟨members, more⟩, hmembers, h⟩ := bind_eq_ok h
      obtain rfl := (Prod.mk.inj (Except.ok.inj h)).1
      exact isRead_object (ih.members hmembers)
    rw [if_neg hobject] at h
    split at h
    next => exact isRead_of_readNumber h _
    split at h
    next => exact hword (.bool true) h
    split at h
    next => exact hword (.bool false) h
    split at h
    next => exact hword .null h
    split at h
    next => exact hword (.float trivial) h
    split at h
    next => exact hword (.float trivial) h
    next => cases h

theorem isRead_moreItems (ih : ReadsLimited nonFinite fuel) {items : List Json}
    (h : readMoreItems nonFinite (fuel + 1) depth s = .ok (items, rest)) :
    ∀ item ∈ items, depth ≤ maxDepth ∧ IsRead (maxDepth - depth) item := by
  rw [readMoreItems] at h
  obtain ⟨⟨first, more⟩, hfirst, h⟩ := bind_eq_ok h
  dsimp only at h
  split at h
  next => cases h
  split_ifs at h with hlast hcomma
  · obtain rfl := (Prod.mk.inj (Except.ok.inj h)).1
    intro item hitem
    rw [List.mem_singleton.mp hitem]
    exact ih.value hfirst
  · split at h
    next => cases h
    split at h
    next => cases h
    obtain ⟨⟨others, more⟩, hothers, h⟩ := bind_eq_ok h
    obtain rfl := (Prod.mk.inj (Except.ok.inj h)).1
    intro item hitem
    rcases List.mem_cons.mp hitem with rfl | hmem
    · exact ih.value hfirst
    · exact ih.moreItems hothers item hmem
  · cases h

theorem isRead_moreMembers (ih : ReadsLimited nonFinite fuel) {members : List (String × Json)}
    (h : readMoreMembers nonFinite (fuel + 1) depth s = .ok (members, rest)) :
    ∀ p ∈ members, depth ≤ maxDepth ∧ IsRead (maxDepth - depth) p.2 := by
  rw [readMoreMembers] at h
  obtain ⟨⟨name, more⟩, -, h⟩ := bind_eq_ok h
  obtain ⟨⟨⟨⟩, more⟩, -, h⟩ := bind_eq_ok h
  obtain ⟨⟨value, more⟩, hvalue, h⟩ := bind_eq_ok h
  dsimp only at h
  split at h
  next => cases h
  split_ifs at h with hlast hcomma
  · obtain rfl := (Prod.mk.inj (Except.ok.inj h)).1
    intro p hp
    rw [List.mem_singleton.mp hp]
    exact ih.value hvalue
  · split at h
    next => cases h
    split_ifs at h with hquote hend
    · obtain ⟨⟨others, more⟩, hothers, h⟩ := bind_eq_ok h
      obtain rfl := (Prod.mk.inj (Except.ok.inj h)).1
      intro p hp
      rcases List.mem_cons.mp hp with rfl | hmem
      · exact ih.value hvalue
      · exact ih.moreMembers hothers p hmem
    · cases h
    · cases h
  · cases h

theorem readsLimited (nonFinite : Bool) (fuel : Nat) : ReadsLimited nonFinite fuel := by
  induction fuel with
  | zero =>
    refine ⟨fun h => ?_, fun h => ?_, fun h => ?_, fun h => ?_, fun h => ?_⟩
    · rw [readValue] at h; cases h
    · rw [readItems] at h; cases h
    · rw [readMoreItems] at h; cases h
    · rw [readMembers] at h; cases h
    · rw [readMoreMembers] at h; cases h
  | succ fuel ih =>
    refine ⟨isRead_value ih, ?_, isRead_moreItems ih, ?_, isRead_moreMembers ih⟩
    · intro depth s items rest h
      rw [readItems] at h
      split at h
      next => cases h
      split_ifs at h
      · obtain rfl := (Prod.mk.inj (Except.ok.inj h)).1
        exact List.forall_mem_nil _
      · exact ih.moreItems h
    · intro depth s members rest h
      rw [readMembers] at h
      split at h
      next => cases h
      split_ifs at h
      · obtain rfl := (Prod.mk.inj (Except.ok.inj h)).1
        exact List.forall_mem_nil _
      · exact ih.moreMembers h
      · cases h

/-- A document that is read from a text is limited. -/
theorem isRead_of_read {text : Bytes} {json : Json} (h : read nonFinite text = .ok json) :
    IsRead maxDepth json := by
  have h := Outcome.mapError_eq_ok h
  unfold readDocument at h
  obtain ⟨⟨found, more⟩, hvalue, h⟩ := bind_eq_ok h
  dsimp only at h
  split at h
  next =>
    obtain rfl := Except.ok.inj h
    exact ((readsLimited nonFinite _).value hvalue).2
  next => cases h

end Json
end Schematic
