import Schematic.Decoding
import Schematic.Proofs.Schema.Document

/-!
The values that decoding gives: no points in time, no tuples and views, texts as keys, and finite
floats.
-/

namespace Schematic
namespace Value

/-- A value made of what a JSON text can hold. -/
inductive IsDecoded : Value → Prop
  | null : IsDecoded .null
  | bool (b : Bool) : IsDecoded (.bool b)
  | int (i : Int) : IsDecoded (.int i)
  | float {x : Binary64} (h : x.isFinite = true) : IsDecoded (.float x)
  | str (s : String) : IsDecoded (.str s)
  | list {items : List Value} (hitems : ∀ item ∈ items, IsDecoded item) : IsDecoded (.list items)
  | dict {entries : List (Value × Value)} (hkeys : ∀ e ∈ entries, ∃ name, e.1 = .str name)
      (hvalues : ∀ e ∈ entries, IsDecoded e.2) : IsDecoded (.dict entries)

variable {value : Value} {xs : List Value} {es : List (Value × Value)}

theorem IsDecoded.items (h : value.IsDecoded) (hitems : value.items? = some xs) :
    value = .list xs ∧ ∀ item ∈ xs, item.IsDecoded := by
  cases h with
  | list hall =>
    obtain rfl := Option.some.inj hitems
    exact ⟨rfl, hall⟩
  | null | bool | int | float | str | dict => cases hitems

theorem IsDecoded.entries (h : value.IsDecoded) (hentries : value.entries? = some es) :
    value = .dict es ∧ ∀ e ∈ es, e.2.IsDecoded := by
  cases h with
  | dict _ hvalues =>
    obtain rfl := Option.some.inj hentries
    exact ⟨rfl, hvalues⟩
  | null | bool | int | float | str | list => cases hentries

theorem hasNonFinite_of_mem_items (h : itemsHaveNonFinite xs = false) {item : Value}
    (hitem : item ∈ xs) : item.hasNonFinite = false := by
  induction xs with
  | nil => cases hitem
  | cons first rest ih =>
    obtain ⟨hfirst, hrest⟩ := Bool.or_eq_false_iff.mp h
    rcases List.mem_cons.mp hitem with rfl | hmem
    · exact hfirst
    · exact ih hrest hmem

theorem hasNonFinite_of_mem_entries (h : entriesHaveNonFinite es = false) {e : Value × Value}
    (he : e ∈ es) : e.2.hasNonFinite = false := by
  induction es with
  | nil => cases he
  | cons first rest ih =>
    obtain ⟨hfirst, hrest⟩ := Bool.or_eq_false_iff.mp h
    rcases List.mem_cons.mp he with rfl | hmem
    · exact hfirst
    · exact ih hrest hmem

end Value

namespace Json

/-- A document without infinite floats and the like denotes a value made of what it can hold. -/
theorem isDecoded_toValue (json : Json) (h : json.toValue.hasNonFinite = false) :
    json.toValue.IsDecoded := by
  match json with
  | .null => exact .null
  | .bool b => exact .bool b
  | .int i => exact .int i
  | .float x => exact .float (by simpa [toValue, Value.hasNonFinite] using h)
  | .str s => exact .str s
  | .array items =>
    refine .list fun item hitem => ?_
    have hfinite := Value.hasNonFinite_of_mem_items h hitem
    rw [itemValues_eq] at hitem
    obtain ⟨inner, hinner, rfl⟩ := List.mem_map.mp hitem
    exact isDecoded_toValue inner hfinite
  | .object members =>
    refine .dict (fun e he => ?_) (fun e he => ?_)
    · obtain ⟨p, -, rfl⟩ := List.mem_map.mp he
      exact ⟨p.1, rfl⟩
    · have hfinite := Value.hasNonFinite_of_mem_entries h he
      obtain ⟨p, hp, rfl⟩ := List.mem_map.mp he
      rw [memberValues_eq] at hp
      rcases Value.mem_putMembers hp with hmem | hnil
      · obtain ⟨q, hq, rfl⟩ := List.mem_map.mp hmem
        exact isDecoded_toValue q.2 hfinite
      · cases hnil
termination_by sizeOf json
decreasing_by
  · have hlt := List.sizeOf_lt_of_mem hinner
    simp only [Json.array.sizeOf_spec]
    omega
  · have hlt := List.sizeOf_lt_of_mem hq
    obtain ⟨name, inner⟩ := q
    simp only [Json.object.sizeOf_spec, Prod.mk.sizeOf_spec] at hlt ⊢
    omega

end Json

theorem isDecoded_of_decode {text : List UInt8} {value : Value} (h : decode text = .ok value) :
    value.IsDecoded := by
  unfold decode at h
  cases hread : Json.read false text with
  | error error => rw [hread] at h; cases h
  | ok json =>
    simp only [hread] at h
    split at h
    next => cases h
    next hfinite =>
      obtain rfl := Except.ok.inj h
      exact Json.isDecoded_toValue json (by simpa using hfinite)

end Schematic
