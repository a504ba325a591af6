import Mathlib.Algebra.Order.BigOperators.Group.List
import Mathlib.Algebra.Order.Group.Nat
import Schematic.Proofs.Outcome
import Schematic.Record.Linearization

/-!
Linearizations that are renamed.  `Merges` is the merge of orders without the count of its steps, which
are never too few.  A merge is renamed step by step when its records are, and if the root of all
records, which comes last in the orders, is replaced by the two roots of models.
-/

namespace Schematic

/-- An order without its head, if that is a given record. -/
def dropHead (ref : RecordRef) (list : List RecordRef) : List RecordRef :=
  if list.head? = some ref then list.tail else list

/-- A merge of orders, step by step. -/
inductive Merges : List (List RecordRef) → List RecordRef → Prop
  | done {lists : List (List RecordRef)} (h : ∀ list ∈ lists, list = []) : Merges lists []
  | next {lists : List (List RecordRef)} {ref : RecordRef} {rest : List RecordRef}
      (h : nextOfMerge lists = some ref) (hrest : Merges (lists.map (dropHead ref)) rest) :
      Merges lists (ref :: rest)

variable {lists : List (List RecordRef)} {ref : RecordRef} {result : List RecordRef}

theorem dropHead_cons (ref head : RecordRef) (tail : List RecordRef) :
    dropHead ref (head :: tail) = if head = ref then tail else head :: tail := by
  unfold dropHead
  rw [List.head?_cons, List.tail_cons]
  simp only [Option.some.injEq]

/-! ## Steps of a merge -/

/-- The next record is the head of an order and further back in none. -/
theorem nextOfMerge_eq_some (h : nextOfMerge lists = some ref) :
    (∃ list ∈ lists, list.head? = some ref) ∧ ∀ list ∈ lists, ref ∉ list.tail := by
  obtain ⟨list, hlist, hfound⟩ := List.exists_of_findSome?_eq_some h
  cases list with
  | nil => cases hfound
  | cons head tail =>
    dsimp only at hfound
    split at hfound
    next => cases hfound
    next hnone =>
      obtain rfl := Option.some.inj hfound
      refine ⟨⟨_, hlist, rfl⟩, fun other hother hmem => hnone ?_⟩
      exact List.any_eq_true.mpr ⟨other, hother, List.contains_iff_mem.mpr hmem⟩

theorem nextOfMerge_of_empty (h : ∀ list ∈ lists, list = []) : nextOfMerge lists = none :=
  List.findSome?_eq_none_iff.mpr fun list hlist => by rw [h list hlist]

theorem dropHead_length (ref : RecordRef) (list : List RecordRef) :
    (dropHead ref list).length ≤ list.length := by
  unfold dropHead
  split
  · rw [List.length_tail]
    omega
  · exact Nat.le_refl _

/-- Every step leaves less to merge. -/
theorem length_dropHead_lt (h : nextOfMerge lists = some ref) :
    (lists.map (dropHead ref)).flatten.length < lists.flatten.length := by
  rw [List.length_flatten, List.length_flatten, List.map_map]
  obtain ⟨list, hlist, hhead⟩ := (nextOfMerge_eq_some h).1
  refine List.sum_lt_sum (fun list => (dropHead ref list).length) List.length
    (fun list _ => dropHead_length ref list) ⟨list, hlist, ?_⟩
  obtain ⟨tail, rfl⟩ := List.head?_eq_some_iff.mp hhead
  rw [dropHead, if_pos hhead]
  exact Nat.lt_succ_self _

theorem headsOf_of_empty (h : ∀ list ∈ lists, list = []) : headsOf lists = [] := by
  have hheads : lists.filterMap List.head? = [] := by
    rw [List.filterMap_eq_nil_iff]
    intro list hlist
    rw [h list hlist]
    rfl
  rw [headsOf, hheads]
  rfl

theorem empty_of_headsOf (h : headsOf lists = []) : ∀ list ∈ lists, list = [] := by
  let add (found : List RecordRef) (ref : RecordRef) : List RecordRef :=
    if found.contains ref then found else found ++ [ref]
  have hkept (heads found : List RecordRef) (hne : found ≠ []) : heads.foldl add found ≠ [] := by
    induction heads generalizing found with
    | nil => exact hne
    | cons ref rest ih =>
      refine ih _ ?_
      show (if _ then _ else _) ≠ []
      split
      · exact hne
      · exact List.append_ne_nil_of_left_ne_nil hne _
  have hheads : lists.filterMap List.head? = [] := by
    cases hcases : lists.filterMap List.head? with
    | nil => rfl
    | cons ref rest =>
      rw [headsOf, hcases] at h
      exact absurd h (hkept rest [ref] (List.cons_ne_nil _ _))
  intro list hlist
  exact List.head?_eq_none_iff.mp (List.filterMap_eq_nil_iff.mp hheads list hlist)

/-- A merge with as many steps as there are records comes to its end. -/
theorem merges_of_mergeOrders {count : Nat} (hcount : lists.flatten.length < count)
    (h : mergeOrders count lists = .ok result) : Merges lists result := by
  induction count generalizing lists result with
  | zero => omega
  | succ count ih =>
    rw [mergeOrders] at h
    cases hnext : nextOfMerge lists with
    | none =>
      rw [hnext] at h
      dsimp only at h
      split at h
      next hempty =>
        obtain rfl := Except.ok.inj h
        exact .done (empty_of_headsOf (List.isEmpty_iff.mp hempty))
      next => cases h
    | some ref =>
      rw [hnext] at h
      obtain ⟨rest, hrest, rfl⟩ := Outcome.map_eq_ok h
      have hlt := length_dropHead_lt hnext
      exact .next hnext (ih (by omega) hrest)

theorem mergeOrders_of_merges {count : Nat} (hcount : lists.flatten.length < count)
    (h : Merges lists result) : mergeOrders count lists = .ok result := by
  induction h generalizing count with
  | @done lists hempty =>
    obtain ⟨n, rfl⟩ : ∃ n, count = n + 1 := ⟨count - 1, by omega⟩
    rw [mergeOrders, nextOfMerge_of_empty hempty, headsOf_of_empty hempty]
    rfl
  | @next lists ref rest hnext _ ih =>
    obtain ⟨n, rfl⟩ : ∃ n, count = n + 1 := ⟨count - 1, by omega⟩
    have hlt := length_dropHead_lt hnext
    have hrest : mergeOrders n (lists.map (dropHead ref)) = .ok rest := ih (by omega)
    rw [mergeOrders, hnext]
    show (mergeOrders n (lists.map (dropHead ref))).map (ref :: ·) = _
    rw [hrest]
    rfl

theorem linearize_eq_ok_iff {orders : List (List RecordRef)} {bases : List RecordRef} :
    linearize orders bases = .ok result ↔ Merges (orders ++ [bases]) result :=
  ⟨merges_of_mergeOrders (Nat.lt_succ_self _), mergeOrders_of_merges (Nat.lt_succ_self _)⟩

theorem Merges.unique {other : List RecordRef} (h : Merges lists result) (h' : Merges lists other) :
    result = other := by
  have hmerged := mergeOrders_of_merges (Nat.lt_succ_self _) h
  exact Except.ok.inj (hmerged.symm.trans (mergeOrders_of_merges (Nat.lt_succ_self _) h'))

theorem Merges.mem (h : Merges lists result) (hmem : ref ∈ result) : ∃ list ∈ lists, ref ∈ list := by
  induction h with
  | done => cases hmem
  | @next lists first rest hnext _ ih =>
    rcases List.mem_cons.mp hmem with rfl | hrest
    · obtain ⟨list, hlist, hhead⟩ := (nextOfMerge_eq_some hnext).1
      exact ⟨list, hlist, List.mem_of_mem_head? hhead⟩
    · obtain ⟨list, hlist, hin⟩ := ih hrest
      obtain ⟨other, hother, rfl⟩ := List.mem_map.mp hlist
      refine ⟨other, hother, ?_⟩
      unfold dropHead at hin
      split at hin
      · exact List.mem_of_mem_tail hin
      · exact hin

theorem Merges.eq_nil (h : Merges lists result) (hempty : ∀ list ∈ lists, list = []) :
    result = [] := by
  cases h with
  | done => rfl
  | next hnext => rw [nextOfMerge_of_empty hempty] at hnext; cases hnext

/-! ## Orders that end in the root -/

/-- Orders in which the root comes last, with every record in one that has it. -/
structure Rooted (lists : List (List RecordRef)) : Prop where
  last : ∀ list ∈ lists, .root ∉ list.dropLast
  shared : ∀ list ∈ lists, ∀ ref ∈ list, ∃ other ∈ lists, ref ∈ other ∧ .root ∈ other

/-- When the root is next, nothing else is left. -/
theorem Rooted.only_root (hrooted : Rooted lists) (h : nextOfMerge lists = some .root) :
    ∀ list ∈ lists, list = [] ∨ list = [.root] := by
  have hroot {list : List RecordRef} (hlist : list ∈ lists) (hmem : .root ∈ list) :
      list = [.root] := by
    cases list with
    | nil => cases hmem
    | cons head tail =>
      have hnot := (nextOfMerge_eq_some h).2 _ hlist
      rcases List.mem_cons.mp hmem with rfl | htail
      · cases tail with
        | nil => rfl
        | cons second rest =>
          exact absurd List.mem_cons_self (hrooted.last _ hlist)
      · exact absurd htail hnot
  intro list hlist
  cases list with
  | nil => exact .inl rfl
  | cons head tail =>
    obtain ⟨other, hother, hmem, hin⟩ := hrooted.shared _ hlist head List.mem_cons_self
    rw [hroot hother hin] at hmem
    obtain rfl := List.mem_singleton.mp hmem
    exact .inr (hroot hlist List.mem_cons_self)

theorem Rooted.dropHead (hrooted : Rooted lists) (h : nextOfMerge lists = some ref)
    (hne : ref ≠ .root) : Rooted (lists.map (dropHead ref)) := by
  have hkept {list : List RecordRef} {other : RecordRef} (hmem : other ∈ list) (hother : other ≠ ref) :
      other ∈ Schematic.dropHead ref list := by
    unfold Schematic.dropHead
    split
    next hhead =>
      obtain ⟨tail, rfl⟩ := List.head?_eq_some_iff.mp hhead
      exact (List.mem_cons.mp hmem).resolve_left hother
    next => exact hmem
  constructor
  · intro list hlist hmem
    obtain ⟨before, hbefore, rfl⟩ := List.mem_map.mp hlist
    refine hrooted.last before hbefore ?_
    unfold Schematic.dropHead at hmem
    split at hmem
    next hhead =>
      obtain ⟨tail, rfl⟩ := List.head?_eq_some_iff.mp hhead
      cases tail with
      | nil => cases hmem
      | cons second rest => exact List.mem_cons_of_mem _ hmem
    next => exact hmem
  · intro list hlist other hmem
    obtain ⟨before, hbefore, rfl⟩ := List.mem_map.mp hlist
    have hbefore_mem : other ∈ before ∧ other ≠ ref := by
      unfold Schematic.dropHead at hmem
      have htail := (nextOfMerge_eq_some h).2 before hbefore
      split at hmem
      next => exact ⟨List.mem_of_mem_tail hmem, fun heq => htail (heq ▸ hmem)⟩
      next hhead =>
        refine ⟨hmem, fun heq => ?_⟩
        cases before with
        | nil => cases hmem
        | cons head tail =>
          rcases List.mem_cons.mp hmem with rfl | hin
          · exact hhead (congrArg some heq)
          · exact htail (heq ▸ hin)
    obtain ⟨shared, hshared, hin, hroot⟩ := hrooted.shared before hbefore other hbefore_mem.1
    exact ⟨_, List.mem_map_of_mem hshared, hkept hin hbefore_mem.2, hkept hroot hne.symm⟩

/-- The root comes last in what is merged. -/
theorem Merges.root_last (h : Merges lists result) (hrooted : Rooted lists)
    (hroot : ∃ list ∈ lists, RecordRef.root ∈ list) :
    ∃ init, result = init ++ [.root] ∧ .root ∉ init := by
  induction h with
  | done hempty =>
    obtain ⟨list, hlist, hmem⟩ := hroot
    rw [hempty list hlist] at hmem
    cases hmem
  | @next lists ref rest hnext hrest ih =>
    by_cases hne : ref = .root
    · subst hne
      have hempty : rest = [] := by
        refine hrest.eq_nil fun list hlist => ?_
        obtain ⟨before, hbefore, rfl⟩ := List.mem_map.mp hlist
        rcases hrooted.only_root hnext before hbefore with rfl | rfl <;> rfl
      subst hempty
      exact ⟨[], rfl, nofun⟩
    · have hroot' : ∃ list ∈ lists.map (Schematic.dropHead ref), RecordRef.root ∈ list := by
        obtain ⟨list, hlist, hmem⟩ := hroot
        refine ⟨_, List.mem_map_of_mem hlist, ?_⟩
        unfold Schematic.dropHead
        split
        next hhead =>
          obtain ⟨tail, rfl⟩ := List.head?_eq_some_iff.mp hhead
          exact (List.mem_cons.mp hmem).resolve_left (Ne.symm hne)
        next => exact hmem
      obtain ⟨init, rfl, hnot⟩ := ih (hrooted.dropHead hnext hne) hroot'
      refine ⟨ref :: init, rfl, fun hmem => ?_⟩
      rcases List.mem_cons.mp hmem with heq | hin
      · exact hne heq.symm
      · exact hnot hin

/-! ## Renamed orders -/

variable {rename : RecordRef → RecordRef}

/-- A record under another name, and the roots of models in the place of the root. -/
def renamed (rename : RecordRef → RecordRef) (ref : RecordRef) : List RecordRef :=
  if ref = .root then RecordKind.model.roots else [rename ref]

/-- The first of the records that one becomes. -/
def leading (rename : RecordRef → RecordRef) (ref : RecordRef) : RecordRef :=
  if ref = .root then .modelRoot else rename ref

/-- Names that stay apart, also from the roots. -/
structure KeepsApart (rename : RecordRef → RecordRef) (lists : List (List RecordRef)) : Prop where
  injective : ∀ list ∈ lists, ∀ ref ∈ list, ∀ other ∈ lists, ∀ ref' ∈ other,
    leading rename ref = leading rename ref' → ref = ref'
  root : ∀ list ∈ lists, ∀ ref ∈ list, leading rename ref ≠ .root

theorem renamed_eq (ref : RecordRef) :
    renamed rename ref = leading rename ref :: if ref = .root then [.root] else [] := by
  unfold renamed leading
  split <;> rfl

theorem mem_renamed_iff {list : List RecordRef} (hapart : KeepsApart rename lists)
    (hlist : list ∈ lists) {part : List RecordRef} (hpart : ∀ r ∈ part, r ∈ list)
    {other : List RecordRef} (hother : other ∈ lists) (href : ref ∈ other) :
    leading rename ref ∈ part.flatMap (renamed rename) ↔ ref ∈ part := by
  rw [List.mem_flatMap]
  constructor
  · rintro ⟨r, hr, hmem⟩
    rw [renamed_eq] at hmem
    rcases List.mem_cons.mp hmem with heq | hin
    · rwa [hapart.injective other hother ref href list hlist r (hpart r hr) heq]
    · split at hin
      · exact absurd (List.mem_singleton.mp hin) (hapart.root other hother ref href)
      · cases hin
  · intro hmem
    refine ⟨ref, hmem, ?_⟩
    rw [renamed_eq]
    exact List.mem_cons_self

theorem KeepsApart.dropHead (hapart : KeepsApart rename lists) (ref : RecordRef) :
    KeepsApart rename (lists.map (dropHead ref)) := by
  have hsub {list : List RecordRef} {other : RecordRef} (h : other ∈ Schematic.dropHead ref list) :
      other ∈ list := by
    unfold Schematic.dropHead at h
    split at h
    · exact List.mem_of_mem_tail h
    · exact h
  constructor
  · intro list hlist a ha other hother b hb heq
    obtain ⟨before, hbefore, rfl⟩ := List.mem_map.mp hlist
    obtain ⟨before', hbefore', rfl⟩ := List.mem_map.mp hother
    exact hapart.injective before hbefore a (hsub ha) before' hbefore' b (hsub hb) heq
  · intro list hlist a ha
    obtain ⟨before, hbefore, rfl⟩ := List.mem_map.mp hlist
    exact hapart.root before hbefore a (hsub ha)

/-- The head of an order, unless it is further back in one. -/
def freeHead? (lists : List (List RecordRef)) (list : List RecordRef) : Option RecordRef :=
  list.head?.filter fun ref => !lists.any fun list => list.tail.contains ref

theorem nextOfMerge_eq (lists : List (List RecordRef)) :
    nextOfMerge lists = lists.findSome? (freeHead? lists) := by
  unfold nextOfMerge
  congr 1
  funext list
  cases list with
  | nil => rfl
  | cons head tail =>
    rw [freeHead?, List.head?_cons, Option.filter_some]
    dsimp only
    cases lists.any fun list => list.tail.contains head <;> rfl

theorem freeHead?_renamed (hapart : KeepsApart rename lists) {list : List RecordRef}
    (hlist : list ∈ lists) :
    freeHead? (lists.map fun list => list.flatMap (renamed rename)) (list.flatMap (renamed rename)) =
      (freeHead? lists list).map (leading rename) := by
  cases list with
  | nil => rfl
  | cons ref tail =>
    have hblocked : (lists.map fun list => list.flatMap (renamed rename)).any
          (fun list => list.tail.contains (leading rename ref)) =
        lists.any fun list => list.tail.contains ref := by
      rw [List.any_map, Bool.eq_iff_iff, List.any_eq_true, List.any_eq_true]
      refine exists_congr fun other => and_congr_right fun hother => ?_
      show (other.flatMap (renamed rename)).tail.contains (leading rename ref) = true ↔ _
      rw [List.contains_iff_mem, List.contains_iff_mem]
      cases other with
      | nil => exact iff_of_false List.not_mem_nil List.not_mem_nil
      | cons head rest =>
        rw [List.flatMap_cons, renamed_eq, List.cons_append, List.tail_cons, List.tail_cons,
          List.mem_append]
        have hnot : leading rename ref ∉ if head = .root then [RecordRef.root] else [] := by
          intro hmem
          split at hmem
          · exact hapart.root _ hlist ref List.mem_cons_self (List.mem_singleton.mp hmem)
          · cases hmem
        rw [or_iff_right hnot]
        exact mem_renamed_iff hapart hother (fun r hr => List.mem_cons_of_mem _ hr) hlist
          List.mem_cons_self
    rw [freeHead?, freeHead?, List.flatMap_cons, renamed_eq, List.cons_append, List.head?_cons,
      List.head?_cons, Option.filter_some, Option.filter_some, hblocked]
    cases lists.any fun list => list.tail.contains ref <;> rfl

theorem nextOfMerge_renamed (hapart : KeepsApart rename lists) :
    nextOfMerge (lists.map fun list => list.flatMap (renamed rename)) =
      (nextOfMerge lists).map (leading rename) := by
  have hfind (part : List (List RecordRef)) (hpart : ∀ list ∈ part, list ∈ lists) :
      (part.map fun list => list.flatMap (renamed rename)).findSome?
          (freeHead? (lists.map fun list => list.flatMap (renamed rename))) =
        (part.findSome? (freeHead? lists)).map (leading rename) := by
    induction part with
    | nil => rfl
    | cons list rest ih =>
      obtain ⟨hlist, hrest⟩ := List.forall_mem_cons.mp hpart
      rw [List.map_cons, List.findSome?_cons, List.findSome?_cons, ih hrest,
        freeHead?_renamed hapart hlist]
      cases freeHead? lists list <;> rfl
  rw [nextOfMerge_eq, nextOfMerge_eq]
  exact hfind lists fun _ h => h

theorem dropHead_renamed (hapart : KeepsApart rename lists) (hne : ref ≠ .root)
    {other list : List RecordRef} (hother : other ∈ lists) (href : ref ∈ other)
    (hlist : list ∈ lists) :
    dropHead (rename ref) (list.flatMap (renamed rename)) =
      (dropHead ref list).flatMap (renamed rename) := by
  have hlead : leading rename ref = rename ref := if_neg hne
  cases list with
  | nil => rfl
  | cons head tail =>
    have hhead : (leading rename head = leading rename ref) ↔ head = ref := by
      constructor
      · exact hapart.injective _ hlist head List.mem_cons_self other hother ref href
      · exact congrArg _
    rw [← hlead, List.flatMap_cons, renamed_eq, List.cons_append, dropHead_cons, dropHead_cons]
    by_cases heq : head = ref
    · subst heq
      rw [if_pos rfl, if_pos rfl, if_neg hne]
      rfl
    · rw [if_neg (hhead.not.mpr heq), if_neg heq, List.flatMap_cons, renamed_eq]
      rfl

/-- A merge of renamed orders gives what was merged, renamed. -/
theorem Merges.renamed (h : Merges lists result) (hrooted : Rooted lists)
    (hapart : KeepsApart rename lists) :
    Merges (lists.map fun list => list.flatMap (renamed rename))
      (result.flatMap (renamed rename)) := by
  induction h with
  | @done lists hempty =>
    refine .done fun list hlist => ?_
    obtain ⟨before, hbefore, rfl⟩ := List.mem_map.mp hlist
    rw [hempty before hbefore]
    rfl
  | @next lists ref rest hnext hrest ih =>
    have hnext' := nextOfMerge_renamed hapart
    rw [hnext] at hnext'
    -- The root alone becomes two records, and it comes last.
    by_cases hne : ref = .root
    · subst hne
      have honly := hrooted.only_root hnext
      have hempty : rest = [] := by
        refine hrest.eq_nil fun list hlist => ?_
        obtain ⟨before, hbefore, rfl⟩ := List.mem_map.mp hlist
        rcases honly before hbefore with rfl | rfl <;> rfl
      -- The roots of models are left, and after the first of them it goes on as before.
      have hback : (lists.map fun list => list.flatMap (Schematic.renamed rename)).map
          (Schematic.dropHead .modelRoot) = lists := by
        rw [List.map_map]
        refine (List.map_congr_left fun list hlist => ?_).trans (List.map_id _)
        rcases honly list hlist with rfl | rfl <;> rfl
      subst hempty
      refine .next hnext' ?_
      show Merges (List.map (Schematic.dropHead .modelRoot) _) [.root]
      rw [hback]
      exact .next hnext hrest
    · obtain ⟨other, hother, hhead⟩ := (nextOfMerge_eq_some hnext).1
      have hlead : leading rename ref = rename ref := if_neg hne
      have hsame : (lists.map fun list => list.flatMap (Schematic.renamed rename)).map
          (Schematic.dropHead (rename ref)) =
            (lists.map (Schematic.dropHead ref)).map
              fun list => list.flatMap (Schematic.renamed rename) := by
        rw [List.map_map, List.map_map]
        exact List.map_congr_left fun list hlist =>
          dropHead_renamed hapart hne hother (List.mem_of_mem_head? hhead) hlist
      have hrest' := ih (hrooted.dropHead hnext hne) (hapart.dropHead ref)
      rw [← hsame] at hrest'
      rw [Option.map_some, hlead] at hnext'
      rw [List.flatMap_cons, show Schematic.renamed rename ref = [rename ref] from if_neg hne]
      exact .next hnext' hrest'

end Schematic
