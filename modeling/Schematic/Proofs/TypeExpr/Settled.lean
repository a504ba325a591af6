import Schematic.Proofs.Outcome
import Schematic.Proofs.Record.Kinds

/-!
Types in which there is nothing to look up.  Looking up their references only forms them again, from
the inside out, and comes to the same in every scope.

What is formed of a type over models is what is formed of the type over the records in their places.
Members of unions are told apart on the way, so that this asks for records whose models are told
apart.  Where a union is refused, the classes of its operands are named, which differ between the two
kinds; what is formed does not.
-/

namespace Schematic
namespace TypeExpr

mutual

/-- A settled type formed again from its parts. -/
def reformed : TypeExpr → Except FormationError TypeExpr
  | .array form element => (reformed element).map (.array form)
  | .mapping form arguments => (allReformed arguments).map (.mapping form)
  | .generic head arguments => (allReformed arguments).map (.generic head)
  | .union style members => do
    let members ← allReformed members
    match style with
    | .applied => unionOf members
    | .barred => barAll members
  | .annotated base extras => (reformed base).map (·.withExtras extras)
  | type => .ok type

def allReformed : List TypeExpr → Except FormationError (List TypeExpr)
  | [] => .ok []
  | type :: rest => do
    let type ← reformed type
    let rest ← allReformed rest
    return type :: rest

end

mutual

/-- Nothing is looked up in a settled type. -/
theorem replace_of_settled (onReference : String → Except Reference.Error TypeExpr) :
    ∀ {type : TypeExpr}, type.isSettled = true →
      Reference.replace onReference type = type.reformed.mapError .formation
  | .scalar _, _ | .openArray _, _ | .record _, _ | .named _, _ | .literal _, _ | .ellipsis, _ => rfl
  | .reference _, h => by cases h
  | .value v, h => by
    cases v with
    | str text => cases h
    | _ => rfl
  | .array form element, h => by
    rw [Reference.replace, reformed, replace_of_settled onReference
      (show element.isSettled = true from h)]
    cases reformed element <;> rfl
  | .mapping form arguments, h => by
    rw [Reference.replace, reformed, replaceAll_of_settled onReference
      (show areSettled arguments = true from h)]
    cases allReformed arguments <;> rfl
  | .generic head arguments, h => by
    rw [Reference.replace, reformed, replaceAll_of_settled onReference
      (show areSettled arguments = true from h)]
    cases allReformed arguments <;> rfl
  | .annotated base extras, h => by
    rw [Reference.replace, reformed, replace_of_settled onReference
      (show base.isSettled = true from h)]
    cases reformed base <;> rfl
  | .union style members, h => by
    rw [Reference.replace, reformed, replaceAll_of_settled onReference
      (show areSettled members = true from h)]
    cases allReformed members with
    | error e => rfl
    | ok members => cases style <;> rfl

theorem replaceAll_of_settled (onReference : String → Except Reference.Error TypeExpr) :
    ∀ {types : List TypeExpr}, areSettled types = true →
      Reference.replaceAll onReference types = (allReformed types).mapError .formation
  | [], _ => rfl
  | type :: rest, h => by
    obtain ⟨htype, hrest⟩ := Bool.and_eq_true_iff.mp h
    rw [Reference.replaceAll, allReformed, replace_of_settled onReference htype,
      replaceAll_of_settled onReference hrest]
    cases reformed type with
    | error e => rfl
    | ok formed => cases allReformed rest <;> rfl

end

/-! ## Types over known records -/

/-- A type that is written with known records only. -/
def Over (known : RecordRef → Prop) (type : TypeExpr) : Prop :=
  ∀ ref ∈ type.refs, known ref

end TypeExpr

/-- Different records have different models. -/
def ModelsApart (known : RecordRef → Prop) : Prop :=
  ∀ a b, known a → known b → a.asModel = b.asModel → a = b

namespace TypeExpr

variable {known : RecordRef → Prop} {type : TypeExpr} {types : List TypeExpr}

theorem over_all_cons :
    (∀ t ∈ type :: types, t.Over known) ↔ type.Over known ∧ ∀ t ∈ types, t.Over known :=
  List.forall_mem_cons

theorem forall_mem_allRefs : (∀ ref ∈ allRefs types, known ref) ↔ ∀ t ∈ types, t.Over known := by
  induction types with
  | nil => exact ⟨fun _ => List.forall_mem_nil _, fun _ => List.forall_mem_nil _⟩
  | cons type rest ih =>
    rw [allRefs, List.forall_mem_append, ih, over_all_cons]
    rfl

theorem over_record {ref : RecordRef} : (TypeExpr.record ref).Over known ↔ known ref :=
  List.forall_mem_singleton

theorem over_array {form : ArrayForm} {element : TypeExpr} :
    (TypeExpr.array form element).Over known ↔ element.Over known :=
  Iff.rfl

theorem over_mapping {form : MappingForm} :
    (TypeExpr.mapping form types).Over known ↔ ∀ t ∈ types, t.Over known :=
  forall_mem_allRefs

theorem over_generic {head : ClassRef} :
    (TypeExpr.generic head types).Over known ↔ ∀ t ∈ types, t.Over known :=
  forall_mem_allRefs

theorem over_union {style : UnionStyle} :
    (TypeExpr.union style types).Over known ↔ ∀ t ∈ types, t.Over known :=
  forall_mem_allRefs

theorem over_annotated {base : TypeExpr} {extras : List Extra} :
    (TypeExpr.annotated base extras).Over known ↔ base.Over known :=
  Iff.rfl

theorem over_base : type.base.Over known ↔ type.Over known := by
  unfold Over
  rw [refs_base]

/-! ### Equality -/

mutual

theorem same_withModels (hapart : ModelsApart known) : ∀ {a b : TypeExpr}, a.Over known →
    b.Over known → same a.withModels b.withModels = same a b
  | .scalar _, b, _, _ | .openArray _, b, _, _ | .named _, b, _, _ | .literal _, b, _, _
  | .value _, b, _, _ | .reference _, b, _, _ | .ellipsis, b, _, _ => by
    cases b <;> rfl
  | .record r, b, ha, hb => by
    cases b with
    | record r' =>
      show (r.asModel == r'.asModel) = (r == r')
      have hmodels := hapart r r' (over_record.mp ha) (over_record.mp hb)
      rw [Bool.eq_iff_iff, beq_iff_eq, beq_iff_eq]
      exact ⟨hmodels, congrArg _⟩
    | _ => rfl
  | .array form a, b, ha, hb => by
    cases b with
    | array form' b =>
      exact congrArg ((form == form') && ·)
        (same_withModels hapart (over_array.mp ha) (over_array.mp hb))
    | _ => rfl
  | .mapping form as, b, ha, hb => by
    cases b with
    | mapping form' bs =>
      exact congrArg ((form == form') && ·)
        (sameList_withModels hapart (over_mapping.mp ha) (over_mapping.mp hb))
    | _ => rfl
  | .generic head as, b, ha, hb => by
    cases b with
    | generic head' bs =>
      exact congrArg ((head == head') && ·)
        (sameList_withModels hapart (over_generic.mp ha) (over_generic.mp hb))
    | _ => rfl
  | .union _ as, b, ha, hb => by
    cases b with
    | union _ bs =>
      show (_ == _ && within (allWithModels as) (allWithModels bs)) = (_ == _ && within as bs)
      rw [within_withModels hapart (over_union.mp ha) (over_union.mp hb), allWithModels_eq,
        allWithModels_eq, List.length_map, List.length_map]
    | _ => rfl
  | .annotated a xs, b, ha, hb => by
    cases b with
    | annotated b ys =>
      exact congrArg (· && sameExtras xs ys)
        (same_withModels hapart (over_annotated.mp ha) (over_annotated.mp hb))
    | _ => rfl

theorem sameList_withModels (hapart : ModelsApart known) : ∀ {as bs : List TypeExpr},
    (∀ a ∈ as, a.Over known) → (∀ b ∈ bs, b.Over known) →
      sameList (allWithModels as) (allWithModels bs) = sameList as bs
  | [], bs, _, _ => by cases bs <;> rfl
  | a :: as, bs, ha, hb => by
    cases bs with
    | nil => rfl
    | cons b bs =>
      obtain ⟨ha, has⟩ := over_all_cons.mp ha
      obtain ⟨hb, hbs⟩ := over_all_cons.mp hb
      rw [allWithModels, allWithModels, sameList, sameList, same_withModels hapart ha hb,
        sameList_withModels hapart has hbs]

theorem within_withModels (hapart : ModelsApart known) : ∀ {as bs : List TypeExpr},
    (∀ a ∈ as, a.Over known) → (∀ b ∈ bs, b.Over known) →
      within (allWithModels as) (allWithModels bs) = within as bs
  | [], _, _, _ => rfl
  | a :: as, bs, ha, hb => by
    obtain ⟨ha, has⟩ := over_all_cons.mp ha
    have hany : (allWithModels bs).any (fun b => same a.withModels b) = bs.any fun b => same a b := by
      rw [allWithModels_eq, List.any_map, Bool.eq_iff_iff, List.any_eq_true, List.any_eq_true]
      refine exists_congr fun b => and_congr_right fun hmem => ?_
      rw [Function.comp_apply, same_withModels hapart ha (hb b hmem)]
    rw [allWithModels, within, within, hany, within_withModels hapart has hb]

end

/-! ### Unions -/

theorem distinct_subset (types : List TypeExpr) : distinct types ⊆ types := by
  induction types with
  | nil => exact List.nil_subset _
  | cons type rest ih =>
    refine List.cons_subset_cons type (List.Subset.trans ?_ ih)
    exact List.filter_subset_self _

theorem distinct_withModels (hapart : ModelsApart known) (h : ∀ t ∈ types, t.Over known) :
    distinct (types.map withModels) = (distinct types).map withModels := by
  induction types with
  | nil => rfl
  | cons type rest ih =>
    obtain ⟨htype, hrest⟩ := over_all_cons.mp h
    rw [List.map_cons, distinct, distinct, List.map_cons, ih hrest, List.filter_map]
    congr 2
    refine List.filter_congr fun other hother => ?_
    rw [Function.comp_apply,
      same_withModels hapart (hrest other (distinct_subset rest hother)) htype]

theorem over_members (h : type.Over known) : ∀ t ∈ type.members, t.Over known := by
  cases type with
  | union style members => exact over_union.mp h
  | _ => exact List.forall_mem_singleton.mpr h

theorem over_flatMap_members (h : ∀ t ∈ types, t.Over known) :
    ∀ t ∈ types.flatMap members, t.Over known := by
  intro t ht
  obtain ⟨type, htype, ht⟩ := List.mem_flatMap.mp ht
  exact over_members (h type htype) t ht

theorem flatMap_members_withModels (types : List TypeExpr) :
    (types.map withModels).flatMap members = (types.flatMap members).map withModels := by
  rw [List.flatMap_map, List.map_flatMap]
  exact List.flatMap_congr fun type _ => members_withModels type

theorem unite_withModels (hapart : ModelsApart known) (style : UnionStyle)
    (h : ∀ t ∈ types, t.Over known) :
    unite style (types.map withModels) = (unite style types).withModels := by
  unfold unite
  rw [flatMap_members_withModels, distinct_withModels hapart (over_flatMap_members h)]
  rcases distinct (types.flatMap members) with _ | ⟨first, _ | ⟨second, rest⟩⟩
  · rfl
  · rfl
  · exact congrArg (TypeExpr.union style) (allWithModels_eq (first :: second :: rest)).symm

theorem over_unite (style : UnionStyle) (h : ∀ t ∈ types, t.Over known) :
    (unite style types).Over known := by
  have hdistinct : ∀ t ∈ distinct (types.flatMap members), t.Over known :=
    fun t ht => over_flatMap_members h t (distinct_subset _ ht)
  unfold unite
  split
  next single heq => exact hdistinct single (heq ▸ List.mem_singleton_self single)
  next => exact over_union.mpr hdistinct

/-! ### Formation -/

/-- A type over known records, and the type over their models. -/
structure IsModelled (known : RecordRef → Prop) (type type' : TypeExpr) : Prop where
  isOver : type.Over known
  eq : type' = type.withModels

theorem isModelled_iff_of_all {types' : List TypeExpr} :
    List.Forall₂ (IsModelled known) types types' ↔
      (∀ t ∈ types, t.Over known) ∧ types' = types.map withModels := by
  induction types generalizing types' with
  | nil =>
    rw [List.forall₂_nil_left_iff]
    exact ⟨fun h => ⟨List.forall_mem_nil _, h⟩, And.right⟩
  | cons type rest ih =>
    rw [List.forall₂_cons_left_iff, over_all_cons]
    constructor
    · rintro ⟨_, rest', hhead, hrest, rfl⟩
      obtain ⟨hover, rfl⟩ := ih.mp hrest
      exact ⟨⟨hhead.isOver, hover⟩, by rw [hhead.eq]; rfl⟩
    · rintro ⟨⟨hhead, hrest⟩, rfl⟩
      exact ⟨_, _, ⟨hhead, rfl⟩, ih.mpr ⟨hrest, rfl⟩, rfl⟩

variable {type' : TypeExpr} {types' : List TypeExpr}

theorem asArgument_matches (h : IsModelled known type type') :
    Outcome.Matches (IsModelled known) type.asArgument type'.asArgument := by
  obtain ⟨hover, rfl⟩ := h
  cases type with
  | value v =>
    cases v with
    | null => exact .ok ⟨List.forall_mem_nil _, rfl⟩
    | str text =>
      show Outcome.Matches _ (if Reference.isExpression text then _ else _) (if _ then _ else _)
      split
      · exact .ok ⟨List.forall_mem_nil _, rfl⟩
      · exact .error
    | _ => exact .ok ⟨hover, rfl⟩
  | _ => exact .ok ⟨hover, rfl⟩

theorem unionOf_matches (hapart : ModelsApart known)
    (h : List.Forall₂ (IsModelled known) types types') :
    Outcome.Matches (IsModelled known) (unionOf types) (unionOf types') := by
  have hempty : types.isEmpty = types'.isEmpty := by
    cases h <;> rfl
  unfold unionOf
  rw [hempty]
  split
  · exact .error
  · refine (Outcome.Matches.mapM (fun _ _ h => asArgument_matches h) h).bind
      fun found found' hfound => ?_
    obtain ⟨hover, rfl⟩ := isModelled_iff_of_all.mp hfound
    rw [flatMap_members_withModels, ← allWithModels_eq, argumentsFault?_withModels]
    split
    next => exact .error
    next => exact .ok ⟨over_unite _ hover, unite_withModels hapart _ hover⟩

theorem isBarrable_withModels (type : TypeExpr) :
    type.withModels.isBarrable = type.isBarrable := by
  cases type <;> rfl

theorem isNull_withModels (type : TypeExpr) : type.withModels.isNull = type.isNull := by
  cases type <;> rfl

theorem nullAsClass_modelled (h : IsModelled known type type') :
    IsModelled known type.nullAsClass type'.nullAsClass := by
  obtain ⟨hover, rfl⟩ := h
  unfold nullAsClass
  rw [isNull_withModels]
  split
  · exact ⟨List.forall_mem_nil _, rfl⟩
  · exact ⟨hover, rfl⟩

theorem bar_matches (hapart : ModelsApart known) {a a' b b' : TypeExpr}
    (ha : IsModelled known a a') (hb : IsModelled known b b') :
    Outcome.Matches (IsModelled known) (bar a b) (bar a' b') := by
  have hunion := unionOf_matches hapart (.cons ha (.cons hb .nil))
  have hnull := isModelled_iff_of_all.mp
    (.cons (nullAsClass_modelled ha) (.cons (nullAsClass_modelled hb) .nil))
  unfold bar
  rw [ha.eq, hb.eq] at hunion hnull ⊢
  simp only [isSpecial_withModels, isBarrable_withModels, isNull_withModels]
  split
  · exact hunion
  · split
    · obtain ⟨hover, heq⟩ := hnull
      rw [heq]
      exact .ok ⟨over_unite _ hover, unite_withModels hapart _ hover⟩
    · exact .error

theorem barAll_matches (hapart : ModelsApart known)
    (h : List.Forall₂ (IsModelled known) types types') :
    Outcome.Matches (IsModelled known) (barAll types) (barAll types') := by
  cases h with
  | nil => exact .error
  | @cons first first' rest rest' hfirst hrest =>
    show Outcome.Matches _ (rest.foldlM bar first) (rest'.foldlM bar first')
    induction hrest generalizing first first' with
    | nil => exact .ok hfirst
    | cons hnext _ ih =>
      rw [List.foldlM_cons, List.foldlM_cons]
      exact (bar_matches hapart hfirst hnext).bind fun _ _ h => ih h

theorem withExtras_modelled (h : IsModelled known type type') (extras : List Extra) :
    IsModelled known (type.withExtras extras) (type'.withExtras extras) := by
  obtain ⟨hover, rfl⟩ := h
  cases type <;> exact ⟨hover, rfl⟩

mutual

/-- What is formed of a type over models is what is formed of the type over the records. -/
theorem reformed_matches (hapart : ModelsApart known) : ∀ {type : TypeExpr}, type.Over known →
    Outcome.Matches (IsModelled known) type.reformed type.withModels.reformed
  | .scalar _, h | .openArray _, h | .record _, h | .named _, h | .literal _, h | .value _, h
  | .reference _, h | .ellipsis, h => .ok ⟨h, rfl⟩
  | .array form element, h =>
    (reformed_matches hapart (over_array.mp h)).map fun _ _ h => ⟨h.isOver, by rw [h.eq]; rfl⟩
  | .mapping form arguments, h =>
    (allReformed_matches hapart (over_mapping.mp h)).map fun _ _ h => by
      obtain ⟨hover, rfl⟩ := isModelled_iff_of_all.mp h
      exact ⟨over_mapping.mpr hover, by rw [withModels, allWithModels_eq]⟩
  | .generic head arguments, h =>
    (allReformed_matches hapart (over_generic.mp h)).map fun _ _ h => by
      obtain ⟨hover, rfl⟩ := isModelled_iff_of_all.mp h
      exact ⟨over_generic.mpr hover, by rw [withModels, allWithModels_eq]⟩
  | .union style members, h =>
    (allReformed_matches hapart (over_union.mp h)).bind fun _ _ hmembers => by
      cases style with
      | applied => exact unionOf_matches hapart hmembers
      | barred => exact barAll_matches hapart hmembers
  | .annotated base extras, h =>
    (reformed_matches hapart (over_annotated.mp h)).map fun _ _ h => withExtras_modelled h extras

theorem allReformed_matches (hapart : ModelsApart known) : ∀ {types : List TypeExpr},
    (∀ t ∈ types, t.Over known) →
      Outcome.Matches (List.Forall₂ (IsModelled known)) (allReformed types)
        (allReformed (allWithModels types))
  | [], _ => .ok .nil
  | _ :: _, h =>
    (reformed_matches hapart (over_all_cons.mp h).1).bind fun _ _ hfirst =>
      (allReformed_matches hapart (over_all_cons.mp h).2).bind fun _ _ hrest =>
        .ok (.cons hfirst hrest)

end

/-! ### Fields -/

/-- The type of a field whose type is settled: null stands for its class. -/
def settledHint (type : TypeExpr) : Except FormationError TypeExpr :=
  type.nullAsClass.reformed

theorem asArgument_of_settled (h : type.isSettled = true) : type.asArgument = .ok type.nullAsClass := by
  cases type with
  | value v =>
    cases v with
    | str text => cases h
    | _ => rfl
  | _ => rfl

theorem settled_nullAsClass (h : type.isSettled = true) : type.nullAsClass.isSettled = true := by
  unfold nullAsClass
  split
  · rfl
  · exact h

theorem hintOf_of_settled (scope : Reference.Scope) (h : type.isSettled = true) :
    Reference.hintOf scope type = type.settledHint.mapError .formation := by
  unfold Reference.hintOf
  rw [asArgument_of_settled h]
  exact replace_of_settled _ (settled_nullAsClass h)

theorem settledHint_matches (hapart : ModelsApart known) (h : type.Over known) :
    Outcome.Matches (IsModelled known) type.settledHint type.withModels.settledHint := by
  have hmodelled : IsModelled known type.nullAsClass type.withModels.nullAsClass :=
    nullAsClass_modelled ⟨h, rfl⟩
  unfold settledHint
  rw [hmodelled.eq]
  exact reformed_matches hapart hmodelled.isOver

end TypeExpr
end Schematic
