import Mathlib.Data.List.Nodup
import Schematic.Value

/-!
Ordered lists of members.  Putting members in one after the other keeps the names distinct, and
members with distinct names are put in as they stand.
-/

namespace Schematic
namespace Value

variable {α : Type}

theorem putMember_of_not_mem {name : String} {value : α} {members : List (String × α)}
    (h : name ∉ members.map Prod.fst) :
    putMember name value members = members ++ [(name, value)] := by
  induction members with
  | nil => rfl
  | cons p rest ih =>
    obtain ⟨key, old⟩ := p
    rw [List.map_cons, List.mem_cons, not_or] at h
    rw [putMember, if_neg (Ne.symm h.1), ih h.2]
    rfl

theorem putMember_of_mem {name : String} {value : α} {members : List (String × α)}
    (h : name ∈ members.map Prod.fst) :
    (putMember name value members).map Prod.fst = members.map Prod.fst := by
  induction members with
  | nil => cases h
  | cons p rest ih =>
    obtain ⟨key, old⟩ := p
    by_cases hkey : key = name
    · rw [putMember, if_pos hkey]
      rfl
    · have hrest : name ∈ rest.map Prod.fst := by
        rcases List.mem_cons.mp h with heq | hmem
        · exact absurd heq.symm hkey
        · exact hmem
      rw [putMember, if_neg hkey, List.map_cons, List.map_cons, ih hrest]

/-- A member that is there after a put was put in or was there before. -/
theorem mem_putMember {name : String} {value : α} {members : List (String × α)}
    {p : String × α} (h : p ∈ putMember name value members) : p = (name, value) ∨ p ∈ members := by
  induction members with
  | nil => exact .inl (List.mem_singleton.mp h)
  | cons q rest ih =>
    obtain ⟨key, old⟩ := q
    by_cases hkey : key = name
    · rw [putMember, if_pos hkey] at h
      rcases List.mem_cons.mp h with heq | hmem
      · exact .inl (hkey ▸ heq)
      · exact .inr (List.mem_cons_of_mem _ hmem)
    · rw [putMember, if_neg hkey] at h
      rcases List.mem_cons.mp h with heq | hmem
      · exact .inr (heq ▸ List.mem_cons_self)
      · exact (ih hmem).imp_right (List.mem_cons_of_mem _)

theorem nodup_putMember {name : String} {value : α} {members : List (String × α)}
    (h : (members.map Prod.fst).Nodup) : ((putMember name value members).map Prod.fst).Nodup := by
  by_cases hmem : name ∈ members.map Prod.fst
  · rw [putMember_of_mem hmem]
    exact h
  · rw [putMember_of_not_mem hmem, List.map_append, List.nodup_append]
    refine ⟨h, List.nodup_singleton _, ?_⟩
    intro a ha b hb heq
    obtain rfl : b = name := by simpa using hb
    exact hmem (heq ▸ ha)

/-- What is found under a name after it was put in. -/
theorem find?_putMember (name : String) (value : α) (members : List (String × α)) :
    (putMember name value members).find? (fun p => p.1 == name) = some (name, value) := by
  induction members with
  | nil => simp [putMember]
  | cons p rest ih =>
    obtain ⟨key, old⟩ := p
    by_cases hkey : key = name
    · simp [putMember, hkey]
    · rw [putMember, if_neg hkey, List.find?_cons_of_neg (by simpa using hkey), ih]

theorem find?_putMember_of_ne {name other : String} (hne : other ≠ name) (value : α)
    (members : List (String × α)) :
    (putMember other value members).find? (fun p => p.1 == name) =
      members.find? fun p => p.1 == name := by
  induction members with
  | nil => simp [putMember, hne]
  | cons p rest ih =>
    obtain ⟨key, old⟩ := p
    by_cases hkey : key = other
    · subst hkey
      simp [putMember, hne]
    · rw [putMember, if_neg hkey, List.find?_cons, List.find?_cons, ih]

theorem filter_putMember (name : String) (value : α) (members : List (String × α)) :
    (putMember name value members).filter (fun p => p.1 ≠ name) =
      members.filter (fun p => p.1 ≠ name) := by
  induction members with
  | nil => simp [putMember]
  | cons p rest ih =>
    obtain ⟨key, old⟩ := p
    by_cases hkey : key = name
    · simp [putMember, hkey]
    · rw [putMember, if_neg hkey, List.filter_cons, List.filter_cons, ih]

/-- A member is found under its name, if names are distinct. -/
theorem find?_of_nodup {members : List (String × α)} (hnames : (members.map Prod.fst).Nodup)
    {p : String × α} (hp : p ∈ members) : members.find? (fun q => q.1 == p.1) = some p := by
  have hsome : (members.find? fun q => q.1 == p.1).isSome = true :=
    List.find?_isSome.mpr ⟨p, hp, beq_self_eq_true p.1⟩
  obtain ⟨q, hq⟩ := Option.isSome_iff_exists.mp hsome
  have hname : q.1 = p.1 := by simpa using List.find?_some hq
  obtain rfl : q = p := List.inj_on_of_nodup_map hnames (List.mem_of_find?_eq_some hq) hp hname
  exact hq

/-! ## Members put in one after the other -/

theorem nodup_putMembers {members found : List (String × α)}
    (h : (found.map Prod.fst).Nodup) :
    ((members.foldl (fun found p => putMember p.1 p.2 found) found).map Prod.fst).Nodup := by
  induction members generalizing found with
  | nil => exact h
  | cons p rest ih => exact ih (nodup_putMember h)

theorem mem_putMembers {members found : List (String × α)} {p : String × α}
    (h : p ∈ members.foldl (fun found p => putMember p.1 p.2 found) found) :
    p ∈ members ∨ p ∈ found := by
  induction members generalizing found with
  | nil => exact .inr h
  | cons q rest ih =>
    rcases ih h with hrest | hfound
    · exact .inl (List.mem_cons_of_mem _ hrest)
    · rcases mem_putMember hfound with heq | hmem
      · exact .inl (heq ▸ List.mem_cons_self)
      · exact .inr hmem

/-- Members whose names are distinct, and new, go to the end in their order. -/
theorem putMembers_of_nodup {members found : List (String × α)}
    (h : (found.map Prod.fst ++ members.map Prod.fst).Nodup) :
    members.foldl (fun found p => putMember p.1 p.2 found) found = found ++ members := by
  induction members generalizing found with
  | nil => exact (List.append_nil found).symm
  | cons p rest ih =>
    have hnot : p.1 ∉ found.map Prod.fst := by
      intro hmem
      exact (List.nodup_append.mp h).2.2 _ hmem p.1 List.mem_cons_self rfl
    rw [List.foldl_cons, putMember_of_not_mem hnot, ih]
    · rw [List.append_assoc]
      rfl
    · rw [List.map_append, List.append_assoc]
      exact h

/-- Members whose names are distinct are put together as they stand. -/
theorem putMembers_nil_of_nodup {members : List (String × α)}
    (h : (members.map Prod.fst).Nodup) :
    members.foldl (fun found p => putMember p.1 p.2 found) [] = members :=
  putMembers_of_nodup h

/-! ## Members of one name -/

theorem eraseDups_of_nodup {names : List String} (h : names.Nodup) : names.eraseDups = names := by
  induction names with
  | nil => rfl
  | cons name rest ih =>
    obtain ⟨hnot, hrest⟩ := List.nodup_cons.mp h
    have hkeep : rest.filter (fun other => !other == name) = rest := by
      refine List.filter_eq_self.mpr fun other hother => ?_
      have hne : other ≠ name := fun heq => hnot (heq ▸ hother)
      simp [hne]
    rw [List.eraseDups_cons, hkeep, ih hrest]

/-- The names after members are put in: those that were there, and then each new one where it
comes first. -/
theorem names_putMembers {members found : List (String × α)} (h : (found.map Prod.fst).Nodup) :
    (members.foldl (fun found p => putMember p.1 p.2 found) found).map Prod.fst =
      (found.map Prod.fst ++ members.map Prod.fst).eraseDups := by
  induction members generalizing found with
  | nil => rw [List.map_nil, List.append_nil, eraseDups_of_nodup h]; rfl
  | cons p rest ih =>
    rw [List.foldl_cons, ih (nodup_putMember h), List.map_cons]
    by_cases hmem : p.1 ∈ found.map Prod.fst
    · have hagain : (p.1 :: rest.map Prod.fst).removeAll (found.map Prod.fst) =
          (rest.map Prod.fst).removeAll (found.map Prod.fst) := by
        rw [List.cons_removeAll, if_neg (by simpa using hmem)]
      rw [putMember_of_mem hmem, List.eraseDups_append, List.eraseDups_append, hagain]
    · rw [putMember_of_not_mem hmem, List.map_append, List.append_assoc]
      rfl

/-- Under each name the last member is found. -/
theorem find?_putMembers (name : String) (members found : List (String × α)) :
    (members.foldl (fun found p => putMember p.1 p.2 found) found).find? (fun p => p.1 == name) =
      (members.reverse.find? (fun p => p.1 == name) <|> found.find? fun p => p.1 == name) := by
  induction members generalizing found with
  | nil => rfl
  | cons p rest ih =>
    rw [List.foldl_cons, ih, List.reverse_cons, List.find?_append, List.find?_singleton]
    by_cases hname : p.1 = name
    · subst hname
      rw [find?_putMember, beq_self_eq_true, if_pos rfl]
      cases rest.reverse.find? fun q => q.1 == p.1 <;> rfl
    · rw [find?_putMember_of_ne hname, beq_false_of_ne hname, if_neg Bool.false_ne_true]
      cases rest.reverse.find? fun q => q.1 == name <;> rfl

/-- A member stays while others are put in under other names. -/
theorem mem_putMember_of_ne {name : String} {value : α} {members : List (String × α)}
    {p : String × α} (hne : p.1 ≠ name) (h : p ∈ members) : p ∈ putMember name value members := by
  induction members with
  | nil => cases h
  | cons q rest ih =>
    obtain ⟨key, old⟩ := q
    by_cases hkey : key = name
    · rw [putMember, if_pos hkey]
      rcases List.mem_cons.mp h with rfl | hmem
      · exact absurd hkey hne
      · exact List.mem_cons_of_mem _ hmem
    · rw [putMember, if_neg hkey]
      rcases List.mem_cons.mp h with rfl | hmem
      · exact List.mem_cons_self
      · exact List.mem_cons_of_mem _ (ih hmem)

theorem mem_putMembers_of_ne {members found : List (String × α)} {p : String × α}
    (hne : ∀ q ∈ members, p.1 ≠ q.1) (h : p ∈ found) :
    p ∈ members.foldl (fun found p => putMember p.1 p.2 found) found := by
  induction members generalizing found with
  | nil => exact h
  | cons q rest ih =>
    obtain ⟨hfirst, hrest⟩ := List.forall_mem_cons.mp hne
    exact ih hrest (mem_putMember_of_ne hfirst h)

/-- Of the members of one name the last one is there in the end. -/
theorem last_mem_putMembers {before after found : List (String × α)} {p : String × α}
    (hlast : ∀ q ∈ after, p.1 ≠ q.1) :
    p ∈ (before ++ p :: after).foldl (fun found p => putMember p.1 p.2 found) found := by
  rw [List.foldl_append, List.foldl_cons]
  refine mem_putMembers_of_ne hlast ?_
  exact List.mem_of_find?_eq_some (find?_putMember p.1 p.2 _)

/-! ## Related members -/

variable {β : Type} {r : α → β → Prop}

/-- Members under the same names, with related values. -/
def MembersRelated (r : α → β → Prop) (members : List (String × α)) (members' : List (String × β)) :
    Prop :=
  List.Forall₂ (fun p q => p.1 = q.1 ∧ r p.2 q.2) members members'

theorem MembersRelated.putMember {found : List (String × α)} {found' : List (String × β)}
    (h : MembersRelated r found found') (name : String) {a : α} {b : β} (hab : r a b) :
    MembersRelated r (putMember name a found) (Value.putMember name b found') := by
  induction h with
  | nil => exact .cons ⟨rfl, hab⟩ .nil
  | @cons p q rest rest' hpq hrest ih =>
    obtain ⟨key, old⟩ := p
    obtain ⟨key', old'⟩ := q
    obtain ⟨rfl, hold⟩ : key = key' ∧ r old old' := hpq
    by_cases hkey : key = name
    · rw [Value.putMember, Value.putMember, if_pos hkey, if_pos hkey]
      exact .cons ⟨rfl, hab⟩ hrest
    · rw [Value.putMember, Value.putMember, if_neg hkey, if_neg hkey]
      exact .cons ⟨rfl, hold⟩ ih

theorem MembersRelated.putMembers {members : List (String × α)} {members' : List (String × β)}
    (h : MembersRelated r members members') {found : List (String × α)}
    {found' : List (String × β)} (hfound : MembersRelated r found found') :
    MembersRelated r (members.foldl (fun found p => Value.putMember p.1 p.2 found) found)
      (members'.foldl (fun found p => Value.putMember p.1 p.2 found) found') := by
  induction h generalizing found found' with
  | nil => exact hfound
  | @cons p q rest rest' hpq _ ih =>
    refine ih ?_
    show MembersRelated r (Value.putMember p.1 p.2 found) (Value.putMember q.1 q.2 found')
    rw [hpq.1]
    exact hfound.putMember q.1 hpq.2

end Value
end Schematic
