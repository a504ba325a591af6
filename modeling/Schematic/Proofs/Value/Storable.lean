import Schematic.Proofs.Json.RoundTrip
import Schematic.Proofs.Schema.Reading
import Schematic.Proofs.Value.Decoded

/-!
Values in documents.  What a document holds is written to a document again with null in the places of
floats that are not finite, and nothing else is changed; so a value is equal to what is left of it if
and only if all its floats are finite.
-/

namespace Schematic

namespace Value

mutual

/-- A value with null in the places of floats that are not finite. -/
def onlyFinite : Value → Value
  | .float x => if x.isFinite then .float x else .null
  | .list items => .list (onlyFiniteItems items)
  | .dict entries => .dict (onlyFiniteEntries entries)
  | value => value

def onlyFiniteItems : List Value → List Value
  | [] => []
  | item :: rest => onlyFinite item :: onlyFiniteItems rest

def onlyFiniteEntries : List (Value × Value) → List (Value × Value)
  | [] => []
  | (key, value) :: rest => (key, onlyFinite value) :: onlyFiniteEntries rest

end

theorem onlyFiniteItems_eq (items : List Value) :
    onlyFiniteItems items = items.map onlyFinite := by
  induction items with
  | nil => rfl
  | cons item rest ih => rw [onlyFiniteItems, ih, List.map_cons]

theorem onlyFiniteEntries_eq (entries : List (Value × Value)) :
    onlyFiniteEntries entries = entries.map fun e => (e.1, onlyFinite e.2) := by
  induction entries with
  | nil => rfl
  | cons e rest ih => rw [onlyFiniteEntries, ih, List.map_cons]

mutual

theorem onlyFinite_of_finite : ∀ value : Value, value.hasNonFinite = false →
    value.onlyFinite = value
  | .float x, h => by
    have hfinite : x.isFinite = true := by simpa [hasNonFinite] using h
    rw [onlyFinite, if_pos hfinite]
  | .list items, h => by rw [onlyFinite, onlyFiniteItems_of_finite items h]
  | .dict entries, h => by rw [onlyFinite, onlyFiniteEntries_of_finite entries h]
  | .null, _ | .bool _, _ | .int _, _ | .str _, _ | .bytes _, _ | .datetime _, _ | .tuple _, _
  | .view _, _ | .record _ _, _ | .foreign _ _, _ => rfl

theorem onlyFiniteItems_of_finite : ∀ items : List Value, itemsHaveNonFinite items = false →
    onlyFiniteItems items = items
  | [], _ => rfl
  | item :: rest, h => by
    obtain ⟨hitem, hrest⟩ := Bool.or_eq_false_iff.mp h
    rw [onlyFiniteItems, onlyFinite_of_finite item hitem, onlyFiniteItems_of_finite rest hrest]

theorem onlyFiniteEntries_of_finite : ∀ entries : List (Value × Value),
    entriesHaveNonFinite entries = false → onlyFiniteEntries entries = entries
  | [], _ => rfl
  | (key, value) :: rest, h => by
    obtain ⟨hvalue, hrest⟩ := Bool.or_eq_false_iff.mp h
    rw [onlyFiniteEntries, onlyFinite_of_finite value hvalue,
      onlyFiniteEntries_of_finite rest hrest]

end

/-! ## Storable values -/

/-- A value that a document can hold, with texts under distinct names as the keys of dictionaries and
at most `room` containers around each part. -/
inductive Storable : Nat → Value → Prop
  | null {room : Nat} : Storable room .null
  | bool {room : Nat} (b : Bool) : Storable room (.bool b)
  | int {room : Nat} {i : Int} (h : i.natAbs < 10 ^ Json.maxIntegerDigits) : Storable room (.int i)
  | float {room : Nat} (x : Binary64) : Storable room (.float x)
  | str {room : Nat} (s : String) : Storable room (.str s)
  | list {room : Nat} {items : List Value} (hroom : items ≠ [] → 0 < room)
      (h : ∀ item ∈ items, Storable (room - 1) item) : Storable room (.list items)
  | dict {room : Nat} {members : List (String × Value)} (hnames : (members.map Prod.fst).Nodup)
      (hroom : members ≠ [] → 0 < room) (h : ∀ p ∈ members, Storable (room - 1) p.2) :
      Storable room (.dict (members.map fun p => (.str p.1, p.2)))

/-- What a limited document denotes is storable. -/
theorem storable_toValue {number : Binary64 → Prop} {room : Nat} {json : Json}
    (h : json.Limited number room) : json.toValue.Storable room := by
  induction h with
  | null => exact .null
  | bool b => exact .bool b
  | int hsize => exact .int hsize
  | @float room x _ => exact .float x
  | str s => exact .str s
  | @array room items hroom _ ih =>
    show Storable room (.list (Json.itemValues items))
    rw [Json.itemValues_eq]
    refine .list (fun hne => hroom fun hnil => hne (by rw [hnil]; rfl)) fun value hvalue => ?_
    obtain ⟨item, hitem, rfl⟩ := List.mem_map.mp hvalue
    exact ih item hitem
  | @object room members hroom _ ih =>
    rw [Decode.toValue_object_eq]
    have hnil : (([] : List (String × Value)).map Prod.fst).Nodup := List.nodup_nil
    refine .dict (nodup_putMembers hnil) (fun hne => hroom fun hnone => hne ?_) fun p hp => ?_
    · rw [hnone]
      rfl
    · rcases mem_putMembers hp with hmem | hnone
      · obtain ⟨q, hq, rfl⟩ := List.mem_map.mp hmem
        exact ih q hq
      · cases hnone

variable {room : Nat} {value : Value}

theorem ofItems_eq (number : Binary64 → Json) (point : DateTime → String) (items : List Value) :
    Json.ofItems number point items = items.map (Json.ofValue number point) := by
  induction items with
  | nil => rfl
  | cons item rest ih => rw [Json.ofItems, ih, List.map_cons]

theorem ofEntries_members (number : Binary64 → Json) (point : DateTime → String)
    (members : List (String × Value)) :
    Json.ofEntries number point (members.map fun p => (.str p.1, p.2)) =
      members.map fun p => (p.1, Json.ofValue number point p.2) := by
  induction members with
  | nil => rfl
  | cons p rest ih =>
    rw [List.map_cons, Json.ofEntries, ih, List.map_cons]
    rfl

/-- A storable value is written as a document with finite floats. -/
theorem Storable.limited_encode (h : value.Storable room) :
    (Schema.encodeDefault value).Limited (fun x => x.isFinite = true) room := by
  induction h with
  | null => exact .null
  | bool b => exact .bool b
  | int hsize => exact .int hsize
  | @float room x =>
    show (Schema.encodeNumber x).Limited _ room
    unfold Schema.encodeNumber
    split
    next hfinite => exact .float hfinite
    next => exact .null
  | str s => exact .str s
  | @list room items hroom _ ih =>
    show (Json.array (Json.ofItems _ _ items)).Limited _ room
    rw [ofItems_eq]
    refine .array (fun hne => hroom fun hnil => hne (by rw [hnil]; rfl)) fun json hjson => ?_
    obtain ⟨item, hitem, rfl⟩ := List.mem_map.mp hjson
    exact ih item hitem
  | @dict room members _ hroom _ ih =>
    show (Json.object (Json.ofEntries _ _ (members.map _))).Limited _ room
    rw [ofEntries_members]
    refine .object (fun hne => hroom fun hnil => hne (by rw [hnil]; rfl)) fun q hq => ?_
    obtain ⟨p, hp, rfl⟩ := List.mem_map.mp hq
    exact ih p hp

/-- The document of a storable value denotes what is left of the value. -/
theorem Storable.toValue_encode (h : value.Storable room) :
    (Schema.encodeDefault value).toValue = value.onlyFinite := by
  induction h with
  | null | bool | int | str => rfl
  | @float room x =>
    show (Schema.encodeNumber x).toValue = _
    unfold Schema.encodeNumber
    rw [onlyFinite]
    split <;> rfl
  | @list room items _ _ ih =>
    show Value.list (Json.itemValues (Json.ofItems _ _ items)) = _
    rw [Json.itemValues_eq, ofItems_eq, onlyFinite, onlyFiniteItems_eq, List.map_map]
    exact congrArg Value.list (List.map_congr_left ih)
  | @dict room members hnames _ _ ih =>
    have hobject : Schema.encodeDefault (.dict (members.map fun p => (.str p.1, p.2))) =
        .object (members.map fun p => (p.1, Schema.encodeDefault p.2)) :=
      congrArg Json.object (ofEntries_members _ _ members)
    have hsame : ((members.map fun p => (p.1, Schema.encodeDefault p.2)).map Prod.fst).Nodup := by
      rw [List.map_map]
      exact hnames
    rw [hobject, Json.toValue_object hsame, Json.entries, onlyFinite, onlyFiniteEntries_eq,
      List.map_map, List.map_map]
    refine congrArg Value.dict (List.map_congr_left fun p hp => ?_)
    exact congrArg (Prod.mk (Value.str p.1)) (ih p hp)

/-! ## Equality -/

theorem sameItems_map_iff {f : Value → Value} {items : List Value}
    (h : ∀ item ∈ items, (same (f item) item = true ↔ item.hasNonFinite = false)) :
    sameItems (items.map f) items = true ↔ itemsHaveNonFinite items = false := by
  induction items with
  | nil => exact iff_of_true rfl rfl
  | cons item rest ih =>
    rw [List.map_cons, sameItems, itemsHaveNonFinite, Bool.and_eq_true, Bool.or_eq_false_iff,
      h item List.mem_cons_self, ih fun other hother => h other (List.mem_cons_of_mem _ hother)]

theorem same_name (a b : String) : same (.str a) (.str b) = true ↔ a = b :=
  beq_iff_eq

/-- Entries under distinct names are equal if and only if those of each name are. -/
theorem sameEntries_map_iff {f : Value → Value} {members : List (String × Value)}
    (hnames : (members.map Prod.fst).Nodup) :
    sameEntries (members.map fun p => (.str p.1, f p.2)) (members.map fun p => (.str p.1, p.2)) =
        true ↔
      ∀ p ∈ members, same (f p.2) p.2 = true := by
  have hentry (chosen : List (String × Value)) (hsub : ∀ p ∈ chosen, p ∈ members) :
      sameEntries (chosen.map fun p => (.str p.1, f p.2)) (members.map fun p => (.str p.1, p.2)) =
          true ↔
        ∀ p ∈ chosen, same (f p.2) p.2 = true := by
    induction chosen with
    | nil => exact iff_of_true rfl nofun
    | cons p rest ih =>
      have hp := hsub p List.mem_cons_self
      have hany : ((members.map fun q => (Value.str q.1, q.2)).any fun e =>
          same (.str p.1) e.1 && same (f p.2) e.2) = true ↔ same (f p.2) p.2 = true := by
        rw [List.any_map, List.any_eq_true]
        constructor
        · rintro ⟨q, hq, hboth⟩
          obtain ⟨hname, hvalue⟩ := Bool.and_eq_true_iff.mp hboth
          obtain rfl : p = q :=
            List.inj_on_of_nodup_map hnames hp hq ((same_name _ _).mp hname)
          exact hvalue
        · intro hvalue
          exact ⟨p, hp, Bool.and_eq_true_iff.mpr ⟨(same_name _ _).mpr rfl, hvalue⟩⟩
      rw [List.map_cons, sameEntries, Bool.and_eq_true, List.forall_mem_cons,
        ih fun q hq => hsub q (List.mem_cons_of_mem _ hq)]
      exact and_congr_left fun _ => hany
  exact hentry members fun _ hp => hp

theorem itemsHaveNonFinite_iff (items : List Value) :
    itemsHaveNonFinite items = false ↔ ∀ item ∈ items, item.hasNonFinite = false := by
  induction items with
  | nil => exact iff_of_true rfl nofun
  | cons item rest ih => rw [itemsHaveNonFinite, Bool.or_eq_false_iff, ih, List.forall_mem_cons]

theorem entriesHaveNonFinite_iff (entries : List (Value × Value)) :
    entriesHaveNonFinite entries = false ↔ ∀ e ∈ entries, e.2.hasNonFinite = false := by
  induction entries with
  | nil => exact iff_of_true rfl nofun
  | cons e rest ih =>
    obtain ⟨key, value⟩ := e
    rw [entriesHaveNonFinite, Bool.or_eq_false_iff, ih, List.forall_mem_cons]

/-- A storable value is equal to what is left of it if and only if its floats are finite. -/
theorem Storable.same_onlyFinite (h : value.Storable room) :
    same value.onlyFinite value = true ↔ value.hasNonFinite = false := by
  induction h with
  | null => exact iff_of_true rfl rfl
  | bool b => cases b <;> exact iff_of_true rfl rfl
  | int _ => exact iff_of_true (beq_self_eq_true _) rfl
  | str s => exact iff_of_true (beq_self_eq_true s) rfl
  | @float room x =>
    rw [onlyFinite, hasNonFinite]
    cases x with
    | nan => exact iff_of_false nofun nofun
    | infinity negative => exact iff_of_false nofun nofun
    | finite negative significand exponent canonical =>
      refine iff_of_true ?_ rfl
      show Binary64.numEq _ _ = true
      unfold Binary64.numEq
      split
      next heq => cases heq
      next => rfl
      next => exact beq_self_eq_true _
  | @list room items _ _ ih =>
    rw [onlyFinite, onlyFiniteItems_eq]
    exact sameItems_map_iff ih
  | @dict room members hnames _ _ ih =>
    rw [onlyFinite, onlyFiniteEntries_eq, List.map_map]
    show (_ && _) = true ↔ entriesHaveNonFinite _ = false
    rw [Bool.and_eq_true, entriesHaveNonFinite_iff]
    have hlength : ((members.map ((fun e : Value × Value => (e.1, onlyFinite e.2)) ∘
        fun p : String × Value => (.str p.1, p.2))).length ==
          (members.map fun p : String × Value => (Value.str p.1, p.2)).length) = true := by
      rw [List.length_map, List.length_map]
      exact beq_self_eq_true _
    rw [and_iff_right hlength]
    refine (sameEntries_map_iff hnames).trans ?_
    rw [List.forall_mem_map]
    exact forall₂_congr ih

end Value
end Schematic
