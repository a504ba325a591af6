import Mathlib.Data.Option.Basic
import Schematic.TypeExpr.Display
import Schematic.TypeExpr.Equality

/-!
Types that can serve as keys.  A key holds nothing that could be changed and no record with a field
that is not set, so that it can always be shown.
-/

namespace Schematic
namespace Value

/-- The fields of a data record that lacks none of them are set. -/
theorem ne_none_of_unsetOwn? {ref : RecordRef} {fields : List (String × Option Value)}
    (h : unsetOwn? ref fields = none) (hkind : ref.kind = .data) (name : String) :
    (name, none) ∉ fields := by
  intro hmem
  rw [unsetOwn?, hkind] at h
  have hfind : fields.find? (fun field => field.2.isNone) = none := Option.map_eq_none_iff.mp h
  exact absurd (List.find?_eq_none.mp hfind _ hmem) (by simp)

mutual

theorem unset?_of_key : ∀ {v : Value}, v.keyFault? = none → v.unset? = none
  | .null, _ | .bool _, _ | .int _, _ | .float _, _ | .str _, _ | .bytes _, _ | .datetime _, _
  | .foreign _ _, _ => rfl
  | .list _, h | .dict _, h | .view _, h => nomatch h
  | .tuple items, h => unsetItem?_of_key h
  | .record ref fields, h => by
    rw [keyFault?] at h
    by_cases hfrozen : ref.frozen = true
    · rw [if_pos hfrozen] at h
      obtain ⟨hown, hfields⟩ := (Option.orElse_eq_none _ _).mp h
      exact unsetField?_of_key (ne_none_of_unsetOwn? (Option.map_eq_none_iff.mp hown)) hfields
    · rw [if_neg hfrozen] at h
      cases h

theorem unsetItem?_of_key : ∀ {items : List Value}, itemsFault? items = none →
    unsetItem? items = none
  | [], _ => rfl
  | item :: rest, h => by
    obtain ⟨hitem, hrest⟩ := (Option.orElse_eq_none _ _).mp h
    rw [unsetItem?, unset?_of_key hitem, unsetItem?_of_key hrest]
    rfl

theorem unsetField?_of_key : ∀ {ref : RecordRef} {fields : List (String × Option Value)},
    (ref.kind = .data → ∀ name, (name, none) ∉ fields) → fieldsFault? fields = none →
      unsetField? ref fields = none
  | _, [], _, _ => rfl
  | ref, (name, some value) :: rest, hset, h => by
    obtain ⟨hvalue, hrest⟩ := (Option.orElse_eq_none _ _).mp h
    have hset' : ref.kind = .data → ∀ name, (name, none) ∉ rest :=
      fun hkind name hmem => hset hkind name (List.mem_cons_of_mem _ hmem)
    rw [unsetField?, unset?_of_key hvalue, unsetField?_of_key hset' hrest]
    rfl
  | ref, (name, none) :: rest, hset, h => by
    cases hkind : ref.kind with
    | data => exact absurd List.mem_cons_self (hset hkind name)
    | model =>
      have hset' : ref.kind = .data → ∀ name, (name, none) ∉ rest :=
        fun hkind name hmem => hset hkind name (List.mem_cons_of_mem _ hmem)
      rw [unsetField?, hkind]
      exact unsetField?_of_key hset' h

end

end Value

namespace TypeExpr

theorem unsetExtra?_of_key {extras : List Extra} (h : extrasFault? extras = none) :
    unsetExtra? extras = none := by
  rw [extrasFault?, List.findSome?_eq_none_iff] at h
  rw [unsetExtra?, List.findSome?_eq_none_iff]
  intro extra hextra
  cases extra with
  | tag text => rfl
  | value v => exact Value.unset?_of_key (h _ hextra)

mutual

/-- A type that can serve as a key can be shown. -/
theorem unset?_of_key : ∀ {type : TypeExpr}, type.keyFault? = none → type.unset? = none
  | .scalar _, _ | .openArray _, _ | .record _, _ | .named _, _ | .reference _, _
  | .ellipsis, _ => rfl
  | .array _ element, h => @unset?_of_key element h
  | .mapping _ arguments, h => @unsetArgument?_of_key arguments h
  | .generic _ arguments, h => @unsetArgument?_of_key arguments h
  | .union _ members, h => @unsetArgument?_of_key members h
  | .literal values, h => @Value.unsetItem?_of_key values h
  | .annotated base extras, h => by
    obtain ⟨hbase, hextras⟩ := (Option.orElse_eq_none _ _).mp h
    rw [unset?, unset?_of_key hbase, unsetExtra?_of_key hextras]
    rfl
  | .value v, h => @Value.unset?_of_key v h

theorem unsetArgument?_of_key : ∀ {types : List TypeExpr}, argumentsFault? types = none →
    unsetArgument? types = none
  | [], _ => rfl
  | type :: rest, h => by
    obtain ⟨htype, hrest⟩ := (Option.orElse_eq_none _ _).mp h
    rw [unsetArgument?, unset?_of_key htype, unsetArgument?_of_key hrest]
    rfl

end

theorem unset?_of_isKey {type : TypeExpr} (h : type.isKey = true) : type.unset? = none :=
  unset?_of_key (Option.isNone_iff_eq_none.mp h)

end TypeExpr
end Schematic
