import Schematic.Proofs.Outcome
import Schematic.SchemaCache

/-!
What a cache holds.  Asking for a type either passes the cache by, or gives an entry that is there,
or derives the schema and keeps what came of it; in each case every entry afterwards was there
before or is the one that was asked for.  So a property of entries holds of all of them if it holds
of what is derived.
-/

namespace Schematic
namespace SchemaCache

theorem takeEntry_mem {type : TypeExpr}
    {entries others : List (TypeExpr × Except Failure Schema)}
    {entry : TypeExpr × Except Failure Schema}
    (h : takeEntry type entries = some (entry, others)) :
    entry ∈ entries ∧ ∀ e ∈ others, e ∈ entries := by
  induction entries generalizing others with
  | nil => cases h
  | cons first rest ih =>
    rw [takeEntry] at h
    split at h
    next =>
      obtain ⟨rfl, rfl⟩ := Prod.mk.inj (Option.some.inj h)
      exact ⟨List.mem_cons_self, fun e he => List.mem_cons_of_mem _ he⟩
    next =>
      obtain ⟨⟨found, remaining⟩, hfound, heq⟩ := Option.map_eq_some_iff.mp h
      obtain ⟨rfl, rfl⟩ := Prod.mk.inj heq
      obtain ⟨hmem, hothers⟩ := ih hfound
      refine ⟨List.mem_cons_of_mem _ hmem, fun e he => ?_⟩
      rcases List.mem_cons.mp he with rfl | he
      · exact List.mem_cons_self
      · exact List.mem_cons_of_mem _ (hothers e he)

theorem takeEntry_same {type : TypeExpr}
    {entries others : List (TypeExpr × Except Failure Schema)}
    {entry : TypeExpr × Except Failure Schema}
    (h : takeEntry type entries = some (entry, others)) : entry.1.same type = true := by
  induction entries generalizing others with
  | nil => cases h
  | cons first rest ih =>
    rw [takeEntry] at h
    split at h
    next hsame =>
      obtain ⟨rfl, -⟩ := Prod.mk.inj (Option.some.inj h)
      exact hsame
    next =>
      obtain ⟨⟨found, remaining⟩, hfound, heq⟩ := Option.map_eq_some_iff.mp h
      obtain ⟨rfl, -⟩ := Prod.mk.inj heq
      exact ih hfound

/-- Every entry has a property of its key and of what is kept for it. -/
def Holds (P : TypeExpr → Except Failure Schema → Prop) (cache : SchemaCache) : Prop :=
  ∀ entry ∈ cache.entries, P entry.1 entry.2

variable {P : TypeExpr → Except Failure Schema → Prop} {cache : SchemaCache}

theorem holds_empty (capacity : Nat) : Holds P (empty capacity) :=
  nofun

theorem Holds.imp {Q : TypeExpr → Except Failure Schema → Prop} (h : cache.Holds P)
    (himp : ∀ key kept, P key kept → Q key kept) : cache.Holds Q :=
  fun entry hentry => himp entry.1 entry.2 (h entry hentry)

/-- What is kept after a derivation was there before, or comes from the derivation.  Without room
nothing is kept. -/
theorem mem_keep {type : TypeExpr} {schema : Except Underivable Schema}
    {entry : TypeExpr × Except Failure Schema} (h : entry ∈ (cache.keep type schema).entries) :
    entry ∈ cache.entries ∨
      0 < cache.capacity ∧ entry.1 = type ∧ schema = entry.2.mapError .failure := by
  have hkept : ∀ kept : Except Failure Schema,
      entry ∈ ((type, kept) :: cache.entries).take cache.capacity →
        entry ∈ cache.entries ∨ 0 < cache.capacity ∧ entry = (type, kept) := by
    intro kept hmem
    rcases List.mem_cons.mp (List.mem_of_mem_take hmem) with heq | hrest
    · have hroom : cache.capacity ≠ 0 := by
        intro hzero
        rw [hzero, List.take_zero] at hmem
        cases hmem
      exact .inr ⟨Nat.pos_of_ne_zero hroom, heq⟩
    · exact .inl hrest
  cases schema with
  | ok derived =>
    rcases hkept (.ok derived) h with hold | ⟨hroom, rfl⟩
    · exact .inl hold
    · exact .inr ⟨hroom, rfl, rfl⟩
  | error reason =>
    cases reason with
    | failure f =>
      rcases hkept (.error f) h with hold | ⟨hroom, rfl⟩
      · exact .inl hold
      · exact .inr ⟨hroom, rfl, rfl⟩
    | fault f => exact .inl h

/-- Asking keeps a property of all entries that holds of what is derived. -/
theorem Holds.get (h : cache.Holds P) {derive : TypeExpr → Except Underivable Schema}
    {type : TypeExpr}
    (hderive : ∀ kept, type.isKey = true → 0 < cache.capacity →
      derive type = kept.mapError .failure → P type kept) :
    (cache.get derive type).cache.Holds P := by
  unfold SchemaCache.get
  by_cases hkey : type.isKey = true
  · rw [if_pos hkey]
    split
    next entry others htake =>
      obtain ⟨hmem, hothers⟩ := takeEntry_mem htake
      intro e he
      rcases List.mem_cons.mp he with rfl | he
      · exact h _ hmem
      · exact h e (hothers e he)
    next =>
      intro e he
      rcases mem_keep he with hold | ⟨hroom, htype, hkept⟩
      · exact h e hold
      · rw [htype]
        exact hderive e.2 hkey hroom hkept
  · rw [if_neg hkey]
    exact h

/-- The answer is what derivation gives, or what is kept under a key that equals the type. -/
theorem Holds.answer (h : cache.Holds P) (derive : TypeExpr → Except Underivable Schema)
    (type : TypeExpr) :
    (cache.get derive type).schema = derive type ∨
      ∃ key kept, P key kept ∧ type.isKey = true ∧ key.same type = true ∧
        (cache.get derive type).schema = kept.mapError .failure := by
  unfold SchemaCache.get
  by_cases hkey : type.isKey = true
  · rw [if_pos hkey]
    split
    next entry others htake =>
      have hmem := (takeEntry_mem htake).1
      exact .inr ⟨entry.1, entry.2, h entry hmem, hkey, takeEntry_same htake, rfl⟩
    next => exact .inl rfl
  · rw [if_neg hkey]
    exact .inl rfl

theorem capacity_get (derive : TypeExpr → Except Underivable Schema) (type : TypeExpr) :
    (cache.get derive type).cache.capacity = cache.capacity := by
  unfold SchemaCache.get
  split
  · split <;> rfl
  · rfl

/-- A derivation that has an outcome to keep is the first entry afterwards, if there is room. -/
theorem entries_keep (cache : SchemaCache) (hroom : 0 < cache.capacity) {type : TypeExpr}
    {schema : Except Underivable Schema} {kept : Except Failure Schema}
    (h : schema = kept.mapError .failure) :
    ∃ rest, (cache.keep type schema).entries = (type, kept) :: rest := by
  obtain ⟨room, hcapacity⟩ := Nat.exists_eq_add_of_lt hroom
  refine ⟨cache.entries.take room, ?_⟩
  rw [Nat.zero_add] at hcapacity
  cases kept with
  | ok found =>
    rw [h]
    show ((type, Except.ok found) :: cache.entries).take cache.capacity = _
    rw [hcapacity]
    rfl
  | error f =>
    rw [h]
    show ((type, Except.error f) :: cache.entries).take cache.capacity = _
    rw [hcapacity]
    rfl

theorem get_empty (capacity : Nat) {derive : TypeExpr → Except Underivable Schema}
    {type : TypeExpr} (hkey : type.isKey = true) :
    ((empty capacity).get derive type).cache = (empty capacity).keep type (derive type) := by
  rw [SchemaCache.get, if_pos hkey]
  rfl

/-- What is kept first is found by a type that equals its key. -/
theorem get_of_first {derive : TypeExpr → Except Underivable Schema} {key type : TypeExpr}
    {kept : Except Failure Schema} {rest : List (TypeExpr × Except Failure Schema)}
    (hfirst : cache.entries = (key, kept) :: rest) (hkey : type.isKey = true)
    (hsame : key.same type = true) :
    (cache.get derive type).schema = kept.mapError .failure := by
  have htake : takeEntry type cache.entries = some ((key, kept), rest) := by
    rw [hfirst, takeEntry, if_pos hsame]
  rw [SchemaCache.get, if_pos hkey, htake]

end SchemaCache
end Schematic
