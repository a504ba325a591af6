import Schematic.Decoding
import Schematic.Proofs.Json.Limits
import Schematic.Proofs.Value.Storable

/-!
The depth of documents.  Of a document whose integers and floats can be written, the depth alone
decides whether its text is read back: as a document, and as the value that it denotes.
-/

namespace Schematic
namespace Json

mutual

/-- The most containers around a part of a document. -/
def depth : Json → Nat
  | .array items => itemsDepth items
  | .object members => membersDepth members
  | _ => 0

def itemsDepth : List Json → Nat
  | [] => 0
  | item :: rest => max (depth item + 1) (itemsDepth rest)

def membersDepth : List (String × Json) → Nat
  | [] => 0
  | (_, json) :: rest => max (depth json + 1) (membersDepth rest)

end

variable {number : Binary64 → Prop} {room room' : Nat} {json : Json}

theorem depth_array_le_iff {items : List Json} :
    (Json.array items).depth ≤ room ↔ ∀ item ∈ items, item.depth < room := by
  show itemsDepth items ≤ room ↔ _
  induction items with
  | nil => exact iff_of_true (Nat.zero_le _) nofun
  | cons item rest ih => rw [itemsDepth, Nat.max_le, ih, List.forall_mem_cons, Nat.add_one_le_iff]

theorem depth_object_le_iff {members : List (String × Json)} :
    (Json.object members).depth ≤ room ↔ ∀ p ∈ members, p.2.depth < room := by
  show membersDepth members ≤ room ↔ _
  induction members with
  | nil => exact iff_of_true (Nat.zero_le _) nofun
  | cons p rest ih =>
    obtain ⟨name, json⟩ := p
    rw [membersDepth, Nat.max_le, ih, List.forall_mem_cons, Nat.add_one_le_iff]

theorem Limited.depth_le (h : Limited number room json) : json.depth ≤ room := by
  induction h with
  | null | bool | int | float | str => exact Nat.zero_le _
  | array hroom _ ih =>
    refine depth_array_le_iff.mpr fun item hitem => ?_
    have hpos := hroom (List.ne_nil_of_mem hitem)
    have hinner := ih item hitem
    omega
  | object hroom _ ih =>
    refine depth_object_le_iff.mpr fun p hp => ?_
    have hpos := hroom (List.ne_nil_of_mem hp)
    have hinner := ih p hp
    omega

/-- A limited document needs no more room than its depth. -/
theorem Limited.of_depth (h : Limited number room json) (hdepth : json.depth ≤ room') :
    Limited number room' json := by
  induction h generalizing room' with
  | null => exact .null
  | bool b => exact .bool b
  | int hsize => exact .int hsize
  | float hnumber => exact .float hnumber
  | str s => exact .str s
  | array _ _ ih =>
    have hinner := depth_array_le_iff.mp hdepth
    refine .array (fun hne => ?_) fun item hitem => ih item hitem ?_
    · obtain ⟨item, hitem⟩ := List.exists_mem_of_ne_nil _ hne
      exact Nat.zero_lt_of_lt (hinner item hitem)
    · exact Nat.le_sub_one_of_lt (hinner item hitem)
  | object _ _ ih =>
    have hinner := depth_object_le_iff.mp hdepth
    refine .object (fun hne => ?_) fun p hp => ih p hp ?_
    · obtain ⟨p, hp⟩ := List.exists_mem_of_ne_nil _ hne
      exact Nat.zero_lt_of_lt (hinner p hp)
    · exact Nat.le_sub_one_of_lt (hinner p hp)

/-! ## Decoding -/

/-- What a document with finite floats denotes has finite floats. -/
theorem Limited.finite (h : Limited (fun x => x.isFinite = true) room json) :
    json.toValue.hasNonFinite = false := by
  induction h with
  | null | bool | int | str => rfl
  | @float _ x hfinite =>
    show (!x.isFinite) = false
    rw [hfinite]
    rfl
  | @array _ items _ _ ih =>
    show Value.itemsHaveNonFinite (itemValues items) = false
    rw [itemValues_eq, Value.itemsHaveNonFinite_iff]
    exact List.forall_mem_map.mpr ih
  | @object _ members _ _ ih =>
    rw [Decode.toValue_object_eq]
    refine (Value.entriesHaveNonFinite_iff _).mpr (List.forall_mem_map.mpr fun p hp => ?_)
    rcases Value.mem_putMembers hp with hmem | hnone
    · obtain ⟨q, hq, rfl⟩ := List.mem_map.mp hmem
      exact ih q hq
    · cases hnone

/-- A document is decoded from its text as the value that it denotes. -/
theorem decode_text (indent : Option Nat)
    (h : Limited (fun x => x.isFinite = true) maxDepth json) :
    decode (Text.Utf8.encode (json.text (Style.schemaText indent))) = .ok json.toValue := by
  unfold decode
  rw [read_text indent h false]
  show (if json.toValue.hasNonFinite = true then _ else _) = _
  rw [h.finite]
  rfl

end Json
end Schematic
