import Schematic.Proofs.Record.Counterpart

/-!
Registries that correspond are kept so by definitions.  The bases of a declaration are data records on
one side and their models on the other.  Their orders are merged alike, since the models are told apart
as the records are and the root comes last (`ancestorsOf_models`); the fields that they hand down are
merged alike, since models share no defaults (`fields_models`).  A bare field finds no default on either
side: models share none, and of the data records it is asked (`DefaultsAreOwn`).  So the class of a
declaration corresponds to that of its model, and as all fields are complete there is nothing left to
settle.
-/

namespace Schematic

open Outcome (exists_of_mem_left exists_of_mem_right)

variable {known : RecordRef → Prop}

namespace Registry

variable {registry models next next' : Registry}

theorem latest?_eq_some {name : String} {c : RecordClass} (h : registry.latest? name = some c) :
    c ∈ registry.classes ∧ c.ref.module = recordModule := by
  refine ⟨List.mem_reverse.mp (List.mem_of_find?_eq_some h), ?_⟩
  have hfound := List.find?_some h
  simp only [Bool.and_eq_true, decide_eq_true_eq] at hfound
  exact hfound.1

theorem findAll_reverse (refs : List RecordRef) :
    registry.findAll refs.reverse = (registry.findAll refs).reverse :=
  List.filterMap_reverse

/-- Records that are related in two registries are found in both. -/
theorem findAll_related {r : RecordClass → RecordClass → Prop} (href : ∀ c d, r c d → c.ref = d.ref)
    (h : List.Forall₂ r registry.classes next.classes) (refs : List RecordRef) :
    List.Forall₂ r (registry.findAll refs) (next.findAll refs) := by
  refine List.rel_filterMap (R := Eq) ?_ (List.forall₂_same.mpr fun _ _ => rfl)
  rintro ref _ rfl
  exact Outcome.rel_of_related (Outcome.find?_related (fun c d hcd => by rw [href c d hcd]) h)

theorem Declares.ne_root {ref : RecordRef} (h : registry.Declares ref) : ref ≠ .root := by
  rintro rfl
  exact absurd h.1 (by decide)

theorem Declares.mono {ref : RecordRef} (h : registry.Declares ref)
    (hnext : registry.classes ⊆ next.classes) : next.Declares ref := by
  obtain ⟨hmodule, c, hc, href⟩ := h
  exact ⟨hmodule, c, hnext hc, href⟩

/-! ## Bare declarations -/

/-- The fields that a record declares bare find no default: no ancestor shares one under their names. -/
def DefaultsAreOwn (registry : Registry) (c : RecordClass) : Prop :=
  ∀ field ∈ c.own, field.bare = true → field.default = none →
    registry.sharedAmong? c.ancestry.tail field.name = none

theorem filled_eq {refs : List RecordRef} {field : FieldDecl}
    (h : field.bare = true → field.default = none → registry.sharedAmong? refs field.name = none) :
    registry.filled refs field = field := by
  obtain ⟨name, type, default, tag, loaded, bare⟩ := field
  unfold filled
  split
  next hbare =>
    cases default with
    | none => rw [h hbare rfl]; rfl
    | some v => rfl
  next => rfl

theorem map_filled_eq {refs : List RecordRef} {fields : List FieldDecl}
    (h : ∀ field ∈ fields, field.bare = true → field.default = none →
      registry.sharedAmong? refs field.name = none) :
    fields.map (registry.filled refs) = fields := by
  rw [List.map_congr_left fun field hfield => filled_eq (h field hfield), List.map_id']

namespace Corresponds

/-! ## Records that are found -/

theorem kind_models (h : registry.Corresponds known models) :
    ∀ c ∈ models.classes, c.ref.kind = .model := by
  intro c hc
  obtain ⟨_, -, hcorresponds⟩ := exists_of_mem_right h.classes hc
  exact hcorresponds.kind

theorem find?_of_module (h : registry.Corresponds known models) (ref : RecordRef)
    (hrecord : ref.module ≠ recordModule) (hlibrary : ref.module ≠ "jsonspec.spec") :
    registry.find? ref = none ∧ models.find? ref = none := by
  constructor <;> rw [find?, List.find?_eq_none] <;> intro c hc hsame <;>
    obtain rfl : c.ref = ref := by simpa using hsame
  · obtain ⟨model, -, hcorresponds⟩ := exists_of_mem_left h.classes hc
    exact hcorresponds.module.elim hrecord hlibrary
  · obtain ⟨c', -, hcorresponds⟩ := exists_of_mem_right h.classes hc
    rw [hcorresponds.ref, RecordRef.asModel_module] at hrecord hlibrary
    exact hcorresponds.module.elim hrecord hlibrary

theorem findAll (h : registry.Corresponds known models) {refs : List RecordRef}
    (hrefs : ∀ ref ∈ refs, ref = .root ∨ registry.Declares ref) :
    List.Forall₂ (RecordClass.IsModelled known) (registry.findAll refs)
      (models.findAll (refs.flatMap (renamed RecordRef.asModel))) := by
  induction refs with
  | nil => exact .nil
  | cons ref rest ih =>
    obtain ⟨hfirst, hrest⟩ := List.forall_mem_cons.mp hrefs
    have htail := ih hrest
    unfold Registry.findAll at htail ⊢
    rw [List.flatMap_cons, List.filterMap_append]
    rcases hfirst with rfl | hdeclared
    · have hroot := h.find?_of_module .root (by decide) (by decide)
      have hmodelRoot := h.find?_of_module .modelRoot (by decide) (by decide)
      rw [List.filterMap_cons_none hroot.1]
      show List.Forall₂ _ _ (List.filterMap models.find? [.modelRoot, .root] ++ _)
      rw [List.filterMap_cons_none hmodelRoot.2, List.filterMap_cons_none hroot.2]
      exact htail
    · have hne := hdeclared.ne_root
      obtain ⟨hmodule, c, hc, rfl⟩ := hdeclared
      obtain ⟨model, hmodel, hcorresponds⟩ := h.find?_asModel hc
      rw [List.filterMap_cons_some (h.find?_of_mem hc), renamed, if_neg hne,
        List.filterMap_cons_some hmodel]
      exact .cons (hcorresponds.isModelled hmodule) htail

theorem latest? (h : registry.Corresponds known models) (name : String) :
    (registry.latest? name = none ∧ models.latest? name = none) ∨
      ∃ c model, registry.latest? name = some c ∧ models.latest? name = some model ∧
        c.IsModelled known model := by
  have htest : ∀ c model, RecordClass.Corresponds known c model →
      (decide (c.ref.module = recordModule) && decide (c.ref.name = name)) =
        (decide (model.ref.module = recordModule) && decide (model.ref.name = name)) := by
    intro c model hcorresponds
    rw [hcorresponds.ref, RecordRef.asModel_module, RecordRef.asModel_name]
  rcases Outcome.find?_related htest (List.rel_reverse h.classes) with
    hnone | ⟨c, model, hc, hmodel, hrelated⟩
  · exact .inl hnone
  · exact .inr ⟨c, model, hc, hmodel, hrelated.isModelled (latest?_eq_some hc).2⟩

theorem bases (h : registry.Corresponds known models) (names : List String) :
    List.Forall₂ (RecordClass.IsModelled known) (names.filterMap registry.latest?)
      (names.filterMap models.latest?) := by
  induction names with
  | nil => exact .nil
  | cons name rest ih =>
    rcases h.latest? name with ⟨hnone, hnone'⟩ | ⟨c, model, hc, hmodel, hmodelled⟩
    · rw [List.filterMap_cons_none hnone, List.filterMap_cons_none hnone']
      exact ih
    · rw [List.filterMap_cons_some hc, List.filterMap_cons_some hmodel]
      exact .cons hmodelled ih

end Corresponds

/-! ## Orders -/

/-- The orders that are merged for a record with the given bases. -/
def ordersOf (bases : List RecordClass) : List (List RecordRef) :=
  bases.map (·.ancestry) ++ [bases.map (·.ref)]

theorem forall_mem_ordersOf {bases : List RecordClass} {P : List RecordRef → Prop} :
    (∀ list ∈ ordersOf bases, P list) ↔ (∀ c ∈ bases, P c.ancestry) ∧ P (bases.map (·.ref)) := by
  rw [ordersOf, List.forall_mem_append, List.forall_mem_map, List.forall_mem_singleton]

theorem merges_of_ancestorsOf {kind : RecordKind} {bases : List RecordClass}
    {ancestors : List RecordRef} (hne : bases ≠ []) (h : ancestorsOf kind bases = .ok ancestors) :
    Merges (ordersOf bases) ancestors := by
  unfold ancestorsOf at h
  split at h
  next => exact absurd rfl hne
  next => cases h
  next => exact linearize_eq_ok_iff.mp (Outcome.mapError_eq_ok h)

/-- Bases that are data records of a registry. -/
structure AreBases (registry : Registry) (bases : List RecordClass) : Prop where
  declared : ∀ c ∈ bases, registry.Declares c.ref
  rooted : ∀ c ∈ bases, ∃ above, c.ancestry = c.ref :: above ++ [.root] ∧ .root ∉ above
  ancestors : ∀ c ∈ bases, ∀ ref ∈ c.ancestry, ref = .root ∨ registry.Declares ref

namespace AreBases

variable {bases : List RecordClass}

theorem refs (h : registry.AreBases bases) : ∀ list ∈ ordersOf bases, ∀ ref ∈ list,
    ref = .root ∨ registry.Declares ref := by
  rw [forall_mem_ordersOf]
  refine ⟨h.ancestors, ?_⟩
  rw [List.forall_mem_map]
  exact fun c hc => .inr (h.declared c hc)

theorem root_mem (h : registry.AreBases bases) {c : RecordClass} (hc : c ∈ bases) :
    .root ∈ c.ancestry := by
  obtain ⟨above, habove, -⟩ := h.rooted c hc
  rw [habove]
  exact List.mem_append_right _ (List.mem_singleton_self _)

theorem rooted_orders (h : registry.AreBases bases) : Rooted (ordersOf bases) := by
  have hancestry {c : RecordClass} (hc : c ∈ bases) : c.ancestry ∈ ordersOf bases :=
    List.mem_append_left _ (List.mem_map_of_mem hc)
  constructor
  · rw [forall_mem_ordersOf]
    constructor
    · intro c hc
      obtain ⟨above, habove, hnot⟩ := h.rooted c hc
      rw [habove, List.dropLast_concat, List.mem_cons, not_or]
      exact ⟨(h.declared c hc).ne_root.symm, hnot⟩
    · intro hroot
      obtain ⟨c, hc, heq⟩ := List.mem_map.mp (List.dropLast_subset _ hroot)
      exact (h.declared c hc).ne_root heq
  · rw [forall_mem_ordersOf]
    constructor
    · exact fun c hc ref href => ⟨c.ancestry, hancestry hc, href, h.root_mem hc⟩
    · rw [List.forall_mem_map]
      intro c hc
      refine ⟨c.ancestry, hancestry hc, ?_, h.root_mem hc⟩
      obtain ⟨above, habove, -⟩ := h.rooted c hc
      rw [habove]
      exact List.mem_cons_self

end AreBases

namespace Corresponds

variable {bases bases' : List RecordClass}

theorem areBases (h : registry.Corresponds known models)
    (hbases : List.Forall₂ (RecordClass.IsModelled known) bases bases')
    (hmem : ∀ c ∈ bases, c ∈ registry.classes) : registry.AreBases bases := by
  have hmodelled : ∀ c ∈ bases, ∃ model, c.IsModelled known model := by
    intro c hc
    obtain ⟨model, -, hmodelled⟩ := exists_of_mem_left hbases hc
    exact ⟨model, hmodelled⟩
  constructor
  · intro c hc
    obtain ⟨model, hmodel⟩ := hmodelled c hc
    exact ⟨hmodel.module, c, hmem c hc, rfl⟩
  · intro c hc
    obtain ⟨model, hmodel⟩ := hmodelled c hc
    exact hmodel.rooted
  · intro c hc
    obtain ⟨model, hmodel⟩ := hmodelled c hc
    exact h.ancestors c (hmem c hc) hmodel.module

/-- Models are told apart as the records are, and from the roots. -/
theorem keepsApart (h : registry.Corresponds known models) {lists : List (List RecordRef)}
    (hrefs : ∀ list ∈ lists, ∀ ref ∈ list, ref = .root ∨ registry.Declares ref) :
    KeepsApart RecordRef.asModel lists := by
  have hother {ref : RecordRef} (href : registry.Declares ref) {other : RecordRef}
      (hne : other.module ≠ recordModule) : ref.asModel ≠ other := by
    rintro rfl
    exact hne ((RecordRef.asModel_module ref).trans href.1)
  constructor
  · intro list hlist ref href list' hlist' ref' href' heq
    unfold leading at heq
    rcases hrefs list hlist ref href with rfl | hdeclared <;>
      rcases hrefs list' hlist' ref' href' with rfl | hdeclared'
    · rfl
    · rw [if_pos rfl, if_neg hdeclared'.ne_root] at heq
      exact absurd heq.symm (hother hdeclared' (by decide))
    · rw [if_pos rfl, if_neg hdeclared.ne_root] at heq
      exact absurd heq (hother hdeclared (by decide))
    · rw [if_neg hdeclared.ne_root, if_neg hdeclared'.ne_root] at heq
      obtain ⟨-, c, hc, rfl⟩ := hdeclared
      obtain ⟨-, d, hd, rfl⟩ := hdeclared'
      rw [h.eq_of_asModel hc hd heq]
  · intro list hlist ref href
    unfold leading
    rcases hrefs list hlist ref href with rfl | hdeclared
    · rw [if_pos rfl]
      decide
    · rw [if_neg hdeclared.ne_root]
      exact hother hdeclared (by decide)

theorem ordersOf_models (hbases : List.Forall₂ (RecordClass.IsModelled known) bases bases')
    (hareBases : registry.AreBases bases) :
    ordersOf bases' = (ordersOf bases).map fun list => list.flatMap (renamed RecordRef.asModel) := by
  have hancestry : (bases.map fun c => c.ancestry.flatMap (renamed RecordRef.asModel)) =
      bases'.map (·.ancestry) :=
    Outcome.map_eq_of_forall₂ (fun c model hmodelled => hmodelled.ancestry.symm) hbases
  have hrefs : (bases.map fun c => c.ref.asModel) = bases'.map (·.ref) :=
    Outcome.map_eq_of_forall₂ (fun c model hmodelled => hmodelled.ref.symm) hbases
  have hflat : (bases.map (·.ref)).flatMap (renamed RecordRef.asModel) =
      bases.map fun c => c.ref.asModel := by
    rw [List.flatMap_map, List.map_eq_flatMap]
    exact List.flatMap_congr fun c hc => if_neg (hareBases.declared c hc).ne_root
  rw [ordersOf, ordersOf, List.map_append, List.map_map, List.map_singleton, hflat, ← hrefs,
    ← hancestry]
  rfl

/-- The ancestors of a data record and of the model in its place, their bases given. -/
theorem ancestorsOf_models (h : registry.Corresponds known models)
    (hbases : List.Forall₂ (RecordClass.IsModelled known) bases bases')
    (hareBases : registry.AreBases bases) {ancestors ancestors' : List RecordRef}
    (hdata : ancestorsOf .data bases = .ok ancestors)
    (hmodel : ancestorsOf .model bases' = .ok ancestors') :
    ancestors' = ancestors.flatMap (renamed RecordRef.asModel) ∧
      (∃ above, ancestors = above ++ [.root] ∧ .root ∉ above) ∧
      ∀ ref ∈ ancestors, ref = .root ∨ registry.Declares ref := by
  -- Without bases there is nothing to merge, and each kind starts from roots of its own.
  by_cases hne : bases = []
  · subst hne
    obtain rfl := List.forall₂_nil_left_iff.mp hbases
    obtain rfl := Except.ok.inj hdata
    obtain rfl := Except.ok.inj hmodel
    exact ⟨rfl, ⟨[], rfl, List.not_mem_nil⟩, List.forall_mem_singleton.mpr (.inl rfl)⟩
  have hne' : bases' ≠ [] := by
    rintro rfl
    exact hne (List.forall₂_nil_right_iff.mp hbases)
  have hmerges := merges_of_ancestorsOf hne hdata
  have hmerges' := merges_of_ancestorsOf hne' hmodel
  rw [ordersOf_models hbases hareBases] at hmerges'
  refine ⟨?_, ?_, ?_⟩
  · exact hmerges'.unique (hmerges.renamed hareBases.rooted_orders (h.keepsApart hareBases.refs))
  · obtain ⟨c, hc⟩ := List.exists_mem_of_ne_nil _ hne
    have hancestry : c.ancestry ∈ ordersOf bases :=
      List.mem_append_left _ (List.mem_map_of_mem hc)
    exact hmerges.root_last hareBases.rooted_orders ⟨_, hancestry, hareBases.root_mem hc⟩
  · intro ref href
    obtain ⟨list, hlist, hin⟩ := hmerges.mem href
    exact hareBases.refs list hlist ref hin

/-! ## Fields -/

theorem kind_of_mem_findAll (h : registry.Corresponds known models) {refs : List RecordRef}
    {c : RecordClass} (hc : c ∈ models.findAll refs) : c.ref.kind = .model := by
  obtain ⟨ref, -, hfound⟩ := List.mem_filterMap.mp hc
  exact h.kind_models c (List.mem_of_find?_eq_some hfound)

/-- Models do not share their defaults. -/
theorem sharedAmong?_models (h : registry.Corresponds known models) (refs : List RecordRef)
    (name : String) : models.sharedAmong? refs name = none := by
  unfold sharedAmong?
  rw [List.findSome?_eq_none_iff]
  intro c hc
  unfold RecordClass.ownShared?
  rw [h.kind_of_mem_findAll hc]

/-- No model is made by a data record above it. -/
theorem find?_data_models (h : registry.Corresponds known models) (refs : List RecordRef) :
    (models.findAll refs).find? (·.ref.kind = .data) = none := by
  rw [List.find?_eq_none]
  intro c hc
  rw [h.kind_of_mem_findAll hc]
  decide

theorem inherited_models {ancestors ancestors' : List RecordClass}
    {inherited : List (List ModelField)}
    (h : List.Forall₂ (RecordClass.IsModelled known) ancestors ancestors')
    (hinherited : ancestors'.mapM models.inheritedFields = .ok inherited) :
    List.Forall₂ (FieldDecl.IsModelled known) (ancestors.filterMap (·.dataFields)).flatten
      inherited.flatten := by
  induction h generalizing inherited with
  | nil =>
    obtain rfl := Except.ok.inj hinherited
    exact .nil
  | @cons c model _ _ hmodelled _ ih =>
    rw [List.mapM_cons] at hinherited
    obtain ⟨first, hfirst, hinherited⟩ := Outcome.bind_eq_ok hinherited
    obtain ⟨rest, hrest, hinherited⟩ := Outcome.bind_eq_ok hinherited
    obtain rfl := Except.ok.inj hinherited
    unfold inheritedFields at hfirst
    rw [if_pos (RecordClass.Corresponds.declared hmodelled).isModel] at hfirst
    obtain rfl := Except.ok.inj hfirst
    obtain ⟨fields, hfields, hrelated⟩ := hmodelled.fields
    rw [List.filterMap_cons_some hfields, List.flatten_cons, List.flatten_cons]
    exact List.rel_append hrelated (ih hrest)

theorem declaredFields_models (hapart : ModelsApart known) {decl : RecordDecl}
    (hcommon : decl.IsCommon known) {scope : Reference.Scope} {own : List ModelField}
    (hown : (mergeFields FieldDecl.name [decl.asModel.fields]).mapM (declaredField scope) = .ok own) :
    List.Forall₂ (FieldDecl.IsModelled known) (mergeFields FieldDecl.name [decl.fields]) own := by
  have hdecls : List.Forall₂ (fun d d' => d.IsCommon known ∧ d' = d.asModel)
      (mergeFields FieldDecl.name [decl.fields])
      (mergeFields FieldDecl.name [decl.asModel.fields]) := by
    refine mergeFields_related (fun d d' hd => by rw [hd.2]; rfl) ?_
    rw [List.flatten_singleton, List.flatten_singleton]
    show List.Forall₂ _ decl.fields (decl.fields.map FieldDecl.asModel)
    rw [List.forall₂_map_right_iff, List.forall₂_same]
    exact fun d hd => ⟨hcommon.fields d hd, rfl⟩
  refine Outcome.forall₂_trans ?_ hdecls (Outcome.mapM_eq_ok hown)
  rintro d _ field ⟨hd, rfl⟩ hfield
  exact isModelled_of_declaredField hapart hd hfield

/-- The fields of a data record, its own and those of its ancestors, and the fields of a model in its
place. -/
theorem fields_models (h : registry.Corresponds known models) (hapart : ModelsApart known)
    {decl : RecordDecl} (hcommon : decl.IsCommon known) {model : RecordClass}
    {ancestors : List RecordRef} {fields : List ModelField}
    (hancestry : model.ancestry.tail = ancestors.flatMap (renamed RecordRef.asModel))
    (hancestors : ∀ ref ∈ ancestors, ref = .root ∨ registry.Declares ref)
    (hfields : models.fieldsAsModel model (mergeFields FieldDecl.name [decl.asModel.fields]) =
      .ok fields) :
    ∃ own, List.Forall₂ (FieldDecl.IsModelled known) (mergeFields FieldDecl.name [decl.fields]) own ∧
      List.Forall₂ (FieldDecl.IsModelled known)
        (mergeFields FieldDecl.name ((registry.findAll ancestors.reverse).filterMap (·.dataFields) ++
          [mergeFields FieldDecl.name [decl.fields]])) fields := by
  obtain ⟨inherited, own, hinherited, hdeclared, hall⟩ := fieldsAsModel_eq_ok hfields
  have hown := declaredFields_models hapart hcommon hdeclared
  refine ⟨own, hown, ?_⟩
  rw [hancestry, findAll_reverse] at hinherited
  have hmerged : List.Forall₂ (FieldDecl.IsModelled known)
      (mergeFields FieldDecl.name ((registry.findAll ancestors.reverse).filterMap (·.dataFields) ++
        [mergeFields FieldDecl.name [decl.fields]]))
      (mergeFields ModelField.name [inherited.flatten, own]) := by
    refine mergeFields_related (fun d field hfield => hfield.name.symm) ?_
    rw [List.flatten_append, List.flatten_singleton, findAll_reverse]
    show List.Forall₂ _ _ (inherited.flatten ++ (own ++ []))
    rw [List.append_nil]
    exact List.rel_append
      (inherited_models (List.rel_reverse (h.findAll hancestors)) hinherited) hown
  have hsame : (fun field : ModelField => { field with
      default := models.sharedAmong? model.ancestry.tail field.name <|> field.default }) = id := by
    funext field
    rw [h.sharedAmong?_models]
    rfl
  have hnames : ∀ field ∈ mergeFields ModelField.name [inherited.flatten, own],
      isModelField field.name = true := by
    intro field hfield
    obtain ⟨d, -, hd⟩ := exists_of_mem_right hmerged hfield
    rw [hd.name]
    exact hd.common.name
  rw [hall, hsame, List.map_id, List.filter_eq_self.mpr hnames]
  exact hmerged

/-! ## Definitions -/

/-- The root of models is no ancestor of a data record. -/
theorem modelRoot_not_mem {ancestors : List RecordRef}
    (hdeclared : ∀ ref ∈ ancestors, ref = .root ∨ registry.Declares ref) :
    ancestors.contains .modelRoot = false := by
  rw [← Bool.not_eq_true, List.contains_iff_mem]
  intro hroot
  rcases hdeclared _ hroot with heq | hdeclares
  · exact absurd heq (by decide)
  · exact absurd hdeclares.1 (by decide)

theorem modelRoot_mem_renamed {above : List RecordRef} :
    ((above ++ [RecordRef.root]).flatMap (renamed RecordRef.asModel)).contains .modelRoot =
      true := by
  rw [List.contains_iff_mem, List.mem_flatMap]
  exact ⟨.root, List.mem_append_right _ (List.mem_singleton_self _), by decide⟩

/-- The class of a data record that descends from no model, if its bare fields find no default. -/
theorem data_of_classOf {decl : RecordDecl} {bases : List RecordClass} {c : RecordClass}
    (h : registry.classOf decl bases = .ok c)
    (hroot : c.ancestry.tail.contains .modelRoot = false) (howned : registry.DefaultsAreOwn c) :
    c.own = mergeFields FieldDecl.name [decl.fields] ∧
      c.dataFields = registry.fieldsAsData decl.kind c.own c.ancestry.tail ∧ c.modelFields = [] := by
  obtain ⟨ancestors, -, -, hancestry, hown, hdata, hmodels⟩ := classOf_eq_ok h
  obtain rfl : c.ancestry.tail = ancestors := congrArg List.tail hancestry
  rw [hroot, Bool.and_false, if_neg Bool.false_ne_true] at hown
  rw [hroot, if_neg Bool.false_ne_true] at hmodels
  rw [map_filled_eq howned] at hdata
  exact ⟨hown, hdata, hmodels⟩

/-- The class of a model among models, which share no default that a bare field could find. -/
theorem model_of_classOf (h : registry.Corresponds known models) {decl : RecordDecl}
    {bases : List RecordClass} {model : RecordClass} (hclass : models.classOf decl bases = .ok model)
    (hkind : decl.kind = .model) (hroot : model.ancestry.tail.contains .modelRoot = true) :
    model.dataFields = none ∧
      models.fieldsAsModel { model with modelFields := [] } (mergeFields FieldDecl.name [decl.fields]) =
        .ok model.modelFields := by
  obtain ⟨ancestors, -, -, hancestry, -, hdata, hmodels⟩ := classOf_eq_ok hclass
  obtain rfl : model.ancestry.tail = ancestors := congrArg List.tail hancestry
  rw [if_pos hroot, map_filled_eq fun field _ _ _ => h.sharedAmong?_models _ field.name] at hmodels
  refine ⟨?_, hmodels⟩
  rw [hdata, hkind]
  show Option.bind _ _ = none
  rw [h.find?_data_models]
  rfl

/-- A declaration leads to a record and to the model in its place. -/
theorem isModelled_of_classOf (h : registry.Corresponds known models) (hapart : ModelsApart known)
    {decl : RecordDecl} (hcommon : decl.IsCommon known) {c model : RecordClass}
    (hdata : registry.classOf decl (decl.bases.filterMap registry.latest?) = .ok c)
    (hmodel : models.classOf decl.asModel (decl.bases.filterMap models.latest?) = .ok model)
    (howned : registry.DefaultsAreOwn c) :
    c.IsModelled known model ∧ c.ref.index = registry.classes.length ∧
      ∀ ref ∈ c.ancestry, ref = c.ref ∨ ref = .root ∨ registry.Declares ref := by
  obtain ⟨ancestors, hancestors, href, hancestry, -⟩ := classOf_eq_ok hdata
  obtain ⟨ancestors', hancestors', href', hancestry', -⟩ := classOf_eq_ok hmodel
  have hmem : ∀ c ∈ decl.bases.filterMap registry.latest?, c ∈ registry.classes := by
    intro c hc
    obtain ⟨name, -, hlatest⟩ := List.mem_filterMap.mp hc
    exact (latest?_eq_some hlatest).1
  have hbases := h.bases decl.bases
  rw [hcommon.kind] at hancestors
  obtain ⟨rfl, ⟨above, rfl, hnot⟩, hdeclared⟩ :=
    h.ancestorsOf_models hbases (h.areBases hbases hmem) hancestors hancestors'
  obtain ⟨hown, hfields, hnoModel⟩ := data_of_classOf hdata
    (by rw [hancestry]; exact modelRoot_not_mem hdeclared) howned
  obtain ⟨hnoData, hmodelFields⟩ := h.model_of_classOf hmodel rfl
    (by rw [hancestry']; exact modelRoot_mem_renamed)
  obtain ⟨own, hownFields, hallFields⟩ :=
    h.fields_models hapart hcommon (congrArg List.tail hancestry') hdeclared hmodelFields
  have hmodule : c.ref.module = recordModule := by rw [href]
  have hmodelRef : model.ref = c.ref.asModel := by
    have hfrozen : (decl.asModel.frozen && decl.asModel.kind = .data) = false :=
      Bool.and_false decl.frozen
    rw [RecordRef.asModel_of_module hmodule, href, href', hfrozen, ← h.classes.length_eq]
    rfl
  have hne : c.ref ≠ .root := by
    intro hroot
    rw [hroot] at hmodule
    exact absurd hmodule (by decide)
  have hmodelled : c.IsModelled known model := {
    module := hmodule
    kind := by
      rw [href]
      exact hcommon.kind
    ref := hmodelRef
    ancestry := by
      rw [hancestry', hancestry, List.flatMap_cons, renamed, if_neg hne, hmodelRef]
      rfl
    rooted := ⟨above, hancestry, hnot⟩
    own := by
      intro field hfield
      rw [hown] at hfield
      obtain ⟨modelField, -, hmodelled⟩ := exists_of_mem_left hownFields hfield
      exact ⟨modelField, hmodelled⟩
    fields := by
      refine ⟨_, ?_, hallFields⟩
      rw [hfields, hcommon.kind, hown, hancestry]
      rfl
    noModel := hnoModel
    noData := hnoData }
  refine ⟨hmodelled, by rw [href], ?_⟩
  rw [hancestry, List.forall_mem_cons]
  exact ⟨.inl rfl, fun ref hmem => .inr (hdeclared ref hmem)⟩

theorem define (h : registry.Corresponds known models) (hapart : ModelsApart known)
    {decl : RecordDecl} (hcommon : decl.IsCommon known) (hdata : registry.define decl = .ok next)
    (hmodel : models.define decl.asModel = .ok next')
    (howned : ∀ c ∈ next.classes, registry.DefaultsAreOwn c) : next.Corresponds known next' := by
  obtain ⟨c, hclass, hnext⟩ := define_eq_ok hdata
  obtain ⟨model, hclass', hnext'⟩ := define_eq_ok hmodel
  have hmem : c ∈ next.classes := by
    rw [hnext]
    exact List.mem_append_right _ (List.mem_singleton_self c)
  obtain ⟨hmodelled, hindex, hancestors⟩ :=
    h.isModelled_of_classOf hapart hcommon hclass hclass' (howned c hmem)
  have hsub : registry.classes ⊆ next.classes := by
    rw [hnext]
    exact List.subset_append_left _ _
  have hself : next.Declares c.ref := ⟨hmodelled.module, c, hmem, rfl⟩
  constructor
  · rw [hnext, hnext']
    exact List.rel_append h.classes (.cons (.declared hmodelled) .nil)
  · exact h.indexed.define hdata
  · rw [hnext, List.forall_mem_append, List.forall_mem_singleton]
    constructor
    · intro d hd hmodule ref href
      exact (h.ancestors d hd hmodule ref href).imp_right fun hdeclares => hdeclares.mono hsub
    · intro _ ref href
      rcases hancestors ref href with rfl | hroot | hdeclares
      · exact .inr hself
      · exact .inl hroot
      · exact .inr (hdeclares.mono hsub)

end Corresponds
end Registry

/-! ## Settling -/

def RecordClass.IsComplete (c : RecordClass) : Prop :=
  ∀ field ∈ c.modelFields, field.isComplete = true

theorem RecordClass.Corresponds.isComplete {c model : RecordClass}
    (h : c.Corresponds known model) : c.IsComplete ∧ model.IsComplete := by
  cases h with
  | library h =>
    have hcomplete := (forall_library (P := RecordClass.IsComplete)).mpr
      ⟨List.all_eq_true.mp rfl, List.all_eq_true.mp rfl⟩ c h
    exact ⟨hcomplete, hcomplete⟩
  | declared h =>
    unfold IsComplete
    rw [h.noModel]
    refine ⟨List.forall_mem_nil _, fun field hfield => ?_⟩
    obtain ⟨_, -, hrelated⟩ := h.fields
    obtain ⟨_, -, hmodelled⟩ := exists_of_mem_right hrelated hfield
    exact hmodelled.complete

namespace Registry

variable {registry models : Registry}

theorem completeFields?_of_complete (scope : Reference.Scope) {fields : List ModelField}
    (h : ∀ field ∈ fields, field.isComplete = true) :
    completeFields? scope fields = .ok (some fields) := by
  induction fields with
  | nil => rfl
  | cons field rest ih =>
    obtain ⟨hfield, hrest⟩ := List.forall_mem_cons.mp h
    rw [completeFields?, if_pos hfield, ih hrest]
    obtain ⟨name, type, default, isComplete⟩ := field
    obtain rfl : isComplete = true := hfield
    rfl

end Registry
end Schematic
