import Schematic.Value.Equality

/-!
Reading and changing the entries of a dictionary by text keys.  `Value.lookup` gives null where
there is no entry; `Value.valueAt?` tells an absent entry from a null one, and each change of entries
has a lemma that says what is read after it.
-/

namespace Schematic
namespace Value

def isText (name : String) : Value → Bool
  | .str s => s == name
  | _ => false

theorem isText_iff {name : String} {key : Value} : key.isText name = true ↔ key = .str name := by
  cases key <;> simp [isText]

/-- The value under a text key, if there is an entry for it. -/
def valueAt? (name : String) (entries : List (Value × Value)) : Option Value :=
  (entries.find? fun e => e.1.isText name).map Prod.snd

theorem valueAt?_cons (name : String) (e : Value × Value) (rest : List (Value × Value)) :
    valueAt? name (e :: rest) = if e.1.isText name then some e.2 else valueAt? name rest := by
  unfold valueAt?
  rw [List.find?_cons]
  cases e.1.isText name <;> rfl

theorem lookup_cons (name : String) (e : Value × Value) (rest : List (Value × Value)) :
    lookup name (e :: rest) = if e.1.isText name then e.2 else lookup name rest := by
  obtain ⟨key, value⟩ := e
  cases key <;> simp [lookup, isText]

theorem lookup_eq (name : String) (entries : List (Value × Value)) :
    lookup name entries = (valueAt? name entries).getD .null := by
  induction entries with
  | nil => rfl
  | cons e rest ih =>
    rw [lookup_cons, valueAt?_cons, ih]
    by_cases h : e.1.isText name = true
    · rw [if_pos h, if_pos h]
      rfl
    · rw [if_neg h, if_neg h]

theorem valueAt?_of_lookup {name : String} {entries : List (Value × Value)}
    (h : lookup name entries ≠ .null) : valueAt? name entries = some (lookup name entries) := by
  rw [lookup_eq] at h ⊢
  cases hentry : valueAt? name entries with
  | none => rw [hentry] at h; exact absurd rfl h
  | some x => rfl

theorem valueAt?_mem {name : String} {entries : List (Value × Value)} {x : Value}
    (h : valueAt? name entries = some x) : ∃ e ∈ entries, e.2 = x := by
  obtain ⟨e, he, hx⟩ := Option.map_eq_some_iff.mp h
  exact ⟨e, List.mem_of_find?_eq_some he, hx⟩

/-! ## Entries in another order -/

theorem valueAt?_eq_some_iff {name : String} {entries : List (Value × Value)}
    (hkeys : (entries.map Prod.fst).Nodup) {x : Value} :
    valueAt? name entries = some x ↔ (.str name, x) ∈ entries := by
  induction entries with
  | nil => exact ⟨nofun, nofun⟩
  | cons e rest ih =>
    obtain ⟨hfirst, hrest⟩ := List.nodup_cons.mp hkeys
    rw [valueAt?_cons, List.mem_cons]
    by_cases hkey : e.1.isText name = true
    · have hname : e.1 = .str name := isText_iff.mp hkey
      have hnot : (Value.str name, x) ∉ rest := by
        intro hmem
        rw [hname] at hfirst
        exact hfirst (List.mem_map.mpr ⟨_, hmem, rfl⟩)
      rw [if_pos hkey, Option.some.injEq, Prod.ext_iff, hname]
      constructor
      · rintro rfl
        exact .inl ⟨rfl, rfl⟩
      · rintro (⟨-, heq⟩ | hmem)
        · exact heq.symm
        · exact absurd hmem hnot
    · have hne : (Value.str name, x) ≠ e := by
        rintro rfl
        exact hkey (isText_iff.mpr rfl)
      rw [if_neg hkey, ih hrest, or_iff_right hne]

theorem valueAt?_perm (name : String) {entries entries' : List (Value × Value)}
    (hperm : entries'.Perm entries) (hkeys : (entries.map Prod.fst).Nodup) :
    valueAt? name entries' = valueAt? name entries := by
  have hkeys' : (entries'.map Prod.fst).Nodup := (hperm.map Prod.fst).nodup_iff.mpr hkeys
  refine Option.ext fun x => ?_
  rw [valueAt?_eq_some_iff hkeys', valueAt?_eq_some_iff hkeys, hperm.mem_iff]

theorem lookup_perm (name : String) {entries entries' : List (Value × Value)}
    (hperm : entries'.Perm entries) (hkeys : (entries.map Prod.fst).Nodup) :
    lookup name entries' = lookup name entries := by
  rw [lookup_eq, lookup_eq, valueAt?_perm name hperm hkeys]

/-! ## The last entry for a key -/

/-- The value of the last entry for a text key. -/
def lastAt? (name : String) (entries : List (Value × Value)) : Option Value :=
  valueAt? name entries.reverse

theorem lastAt?_cons (name : String) (e : Value × Value) (rest : List (Value × Value)) :
    lastAt? name (e :: rest) =
      (lastAt? name rest <|> if e.1.isText name then some e.2 else none) := by
  unfold lastAt? valueAt?
  rw [List.reverse_cons, List.find?_append, List.find?_singleton]
  cases rest.reverse.find? fun e => e.1.isText name with
  | some found => rfl
  | none => cases e.1.isText name <;> rfl

theorem lastAt?_mem {name : String} {entries : List (Value × Value)} {x : Value}
    (h : lastAt? name entries = some x) : (.str name, x) ∈ entries := by
  obtain ⟨e, he, rfl⟩ := Option.map_eq_some_iff.mp h
  have hkey : e.1.isText name = true := by simpa using List.find?_some he
  have hmem := List.mem_reverse.mp (List.mem_of_find?_eq_some he)
  rw [← isText_iff.mp hkey]
  exact hmem

/-- An entry is the last one for its key if no other has the key. -/
theorem lastAt?_of_nodup {entries : List (Value × Value)} (hkeys : (entries.map Prod.fst).Nodup)
    (name : String) : lastAt? name entries = valueAt? name entries :=
  valueAt?_perm name entries.reverse_perm hkeys

/-! ## Entries under some of the keys -/

theorem valueAt?_filter_of_pos {keep : Value → Bool} {name : String}
    (h : keep (.str name) = true) (entries : List (Value × Value)) :
    valueAt? name (entries.filter fun e => keep e.1) = valueAt? name entries := by
  induction entries with
  | nil => rfl
  | cons e rest ih =>
    rw [List.filter_cons, valueAt?_cons]
    by_cases hkey : e.1.isText name = true
    · have hkeep : keep e.1 = true := by rw [isText_iff.mp hkey]; exact h
      rw [if_pos hkeep, valueAt?_cons, if_pos hkey, if_pos hkey]
    · rw [if_neg hkey, ← ih]
      by_cases hkeep : keep e.1 = true
      · rw [if_pos hkeep, valueAt?_cons, if_neg hkey]
      · rw [if_neg hkeep]

theorem valueAt?_filter_of_neg {keep : Value → Bool} {name : String}
    (h : keep (.str name) = false) (entries : List (Value × Value)) :
    valueAt? name (entries.filter fun e => keep e.1) = none := by
  unfold valueAt?
  rw [Option.map_eq_none_iff, List.find?_eq_none]
  intro e he hkey
  have hkeep := (List.mem_filter.mp he).2
  rw [isText_iff.mp hkey, h] at hkeep
  cases hkeep

/-- A key that is left out is read as null, and so one that was null may be left out. -/
theorem lookup_filter (keep : Value → Bool) {name : String} {entries : List (Value × Value)}
    (h : lookup name entries ≠ .null → keep (.str name) = true) :
    lookup name (entries.filter fun e => keep e.1) = lookup name entries := by
  cases hkeep : keep (.str name) with
  | true => rw [lookup_eq, lookup_eq, valueAt?_filter_of_pos hkeep]
  | false =>
    by_cases hnull : lookup name entries = .null
    · rw [lookup_eq, valueAt?_filter_of_neg hkeep, hnull]
      rfl
    · rw [h hnull] at hkeep
      cases hkeep

/-! ## Entries with other values -/

theorem valueAt?_map (f : Value → Value → Value) (name : String) (entries : List (Value × Value)) :
    valueAt? name (entries.map fun e => (e.1, f e.1 e.2)) =
      (valueAt? name entries).map (f (.str name)) := by
  induction entries with
  | nil => rfl
  | cons e rest ih =>
    rw [List.map_cons, valueAt?_cons, valueAt?_cons, ih]
    by_cases hkey : e.1.isText name = true
    · rw [if_pos hkey, if_pos hkey, isText_iff.mp hkey]
      rfl
    · rw [if_neg hkey, if_neg hkey]

theorem lookup_mapValues {f : Value → Value → Value} {name : String}
    (hnull : f (.str name) .null = .null) (entries : List (Value × Value)) :
    lookup name (entries.map fun e => (e.1, f e.1 e.2)) = f (.str name) (lookup name entries) := by
  rw [lookup_eq, lookup_eq, valueAt?_map]
  cases valueAt? name entries with
  | none => exact hnull.symm
  | some x => rfl

/-! ## A further entry -/

theorem same_str (key : Value) (name : String) : same key (.str name) = key.isText name := by
  cases key <;> simp [same, sameLeaf, isText, asInt?]

theorem lookup_putEntry (name other : String) (value : Value) (entries : List (Value × Value)) :
    lookup name (putEntry (.str other) value entries) =
      if other = name then value else lookup name entries := by
  induction entries with
  | nil =>
    show lookup name [(.str other, value)] = _
    rw [lookup_cons]
    simp [isText]
  | cons e rest ih =>
    obtain ⟨key, old⟩ := e
    rw [putEntry, same_str]
    by_cases hkey : key.isText other = true
    · rw [if_pos hkey, lookup_cons, lookup_cons, isText_iff.mp hkey]
      by_cases hname : other = name
      · simp [isText, hname]
      · simp [isText, hname]
    · rw [if_neg hkey, lookup_cons, lookup_cons, ih]
      by_cases hname : other = name
      · subst hname
        rw [if_neg hkey, if_pos rfl, if_pos rfl]
      · rw [if_neg hname, if_neg hname]

end Value
end Schematic
