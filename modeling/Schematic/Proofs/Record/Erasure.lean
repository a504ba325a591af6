import Schematic.Proofs.Record.Lookup

/-!
Definitions that differ in what derivation does not see of the types of fields.  They lead to registries
of the same records with the same names to look up, so that every lookup is made in the same scope on
both sides.  What a definition makes of a declaration, and what settling makes of a model, is then alike.

A batch of definitions is followed by what is known of its records (`Registry.Batch`): their fields as
models are looked up alike, if the earlier models that they inherit from are complete.  Of the models of
earlier batches it is known only that they look the same if they are complete.  Either is known only of
records that are reached, which are those that a type is made of and those that they inherit from; of any
others nothing is asked.
-/

namespace Schematic

/-! ## Records -/

/-- Records that differ at most in what derivation does not see of the types of their fields.  What is
known of their fields as models is `r`. -/
structure RecordClass.Alike (r : RecordClass → RecordClass → Prop) (c c' : RecordClass) :
    Prop where
  ref : c.ref = c'.ref
  ancestry : c.ancestry = c'.ancestry
  own : List.Forall₂ FieldDecl.Recast c.own c'.own
  dataFields : Option.Rel (List.Forall₂ FieldDecl.Recast) c.dataFields c'.dataFields
  models : r c c'

/-- Records whose types of fields as models are looked up alike. -/
def RecordClass.Recast (c c' : RecordClass) : Prop :=
  List.Forall₂ ModelField.Recast c.modelFields c'.modelFields

/-- Records that look the same as models once both are complete. -/
def RecordClass.Settled (c c' : RecordClass) : Prop :=
  ModelField.Settled c.modelFields c'.modelFields

/-- Records that are looked up alike, unless one of them was there before and is not complete. -/
def RecordClass.RecastSince (before before' : Registry) (c c' : RecordClass) : Prop :=
  (c ∈ before.classes → c.IsComplete) → (c' ∈ before'.classes → c'.IsComplete) → c.Recast c'

/-- What is known of records only if both of them are reached. -/
def RecordClass.WhereReached (reached reached' : RecordRef → Prop)
    (r : RecordClass → RecordClass → Prop) (c c' : RecordClass) : Prop :=
  reached c.ref → reached' c'.ref → r c c'

/-- The models that a record inherits from, of those that were there before, are complete. -/
def RecordClass.CompleteAbove (before : Registry) (c : RecordClass) : Prop :=
  ∀ base ∈ before.classes, base.ref ∈ c.ancestry → base.IsComplete

/-- A record that is reached has all that it inherits from reached, and complete as far as it was there
before. -/
structure RecordClass.Grounded (reached : RecordRef → Prop) (before : Registry) (c : RecordClass) :
    Prop where
  above : reached c.ref → ∀ ref ∈ c.ancestry, reached ref
  complete : reached c.ref → c.CompleteAbove before

/-- Registries of records that are alike one by one. -/
def Registry.Alike (r : RecordClass → RecordClass → Prop) (registry registry' : Registry) :
    Prop :=
  List.Forall₂ (RecordClass.Alike r) registry.classes registry'.classes

theorem RecordClass.Alike.isModel {r : RecordClass → RecordClass → Prop} {c c' : RecordClass}
    (h : c.Alike r c') : c.isModel = c'.isModel :=
  congrArg (fun ancestry => ancestry.contains RecordRef.modelRoot) h.ancestry

theorem ownShared?_of_recast {c c' : RecordClass} (href : c.ref = c'.ref)
    (hown : List.Forall₂ FieldDecl.Recast c.own c'.own) (name : String) :
    c.ownShared? name = c'.ownShared? name := by
  unfold RecordClass.ownShared?
  rw [href]
  have hname : ∀ field field' : FieldDecl, field.Recast field' →
      (field.name == name) = (field'.name == name) := fun _ _ h => by rw [h.name]
  rcases Outcome.find?_related hname hown with ⟨hnone, hnone'⟩ | ⟨field, field', hfind, hfind', h⟩
  · rw [hnone, hnone']
  · rw [hfind, hfind', Option.bind_some, Option.bind_some, h.default]

namespace Registry

open RecordClass (WhereReached)

theorem ref_of_mem_findAll {registry : Registry} {refs : List RecordRef} {c : RecordClass}
    (h : c ∈ registry.findAll refs) : c.ref ∈ refs := by
  obtain ⟨ref, href, hfind⟩ := List.mem_filterMap.mp h
  exact ref_of_find? hfind ▸ href

theorem grounded_of_settled {registry before : Registry} {reached : RecordRef → Prop}
    {new settled : List RecordClass}
    (h : List.Forall₂ (fun c s => registry.settle c = .ok s) new settled)
    (hgrounded : ∀ c ∈ settled, c.Grounded reached before) : ∀ c ∈ new, c.Grounded reached before := by
  intro c hc
  obtain ⟨s, hs, hsettle⟩ := Outcome.exists_of_mem_left h hc
  have hsettled := hgrounded s hs
  rw [settle_eq_ok hsettle] at hsettled
  exact ⟨hsettled.above, hsettled.complete⟩

variable {r : RecordClass → RecordClass → Prop} {registry registry' before before' : Registry}
  {reached reached' : RecordRef → Prop}

/-- What a record that is reached inherits from is reached and, as far as it was there before,
complete. -/
theorem reached_of_mem_findAll {c : RecordClass} (h : c.Grounded reached before)
    (hreached : reached c.ref) {refs : List RecordRef} (hrefs : refs ⊆ c.ancestry) :
    ∀ base ∈ registry.findAll refs,
      reached base.ref ∧ (base ∈ before.classes → base.IsComplete) := by
  intro base hbase
  have hmem := hrefs (ref_of_mem_findAll hbase)
  exact ⟨h.above hreached _ hmem, fun hbefore => h.complete hreached base hbefore hmem⟩

namespace Alike

/-! ### Records that are found -/

theorem find? (h : registry.Alike r registry') (ref : RecordRef) :
    (registry.find? ref = none ∧ registry'.find? ref = none) ∨
      ∃ c c', registry.find? ref = some c ∧ registry'.find? ref = some c' ∧ c.Alike r c' :=
  Outcome.find?_related (fun c c' hc => by rw [hc.ref]) h

theorem latest? (h : registry.Alike r registry') (name : String) :
    (registry.latest? name = none ∧ registry'.latest? name = none) ∨
      ∃ c c', registry.latest? name = some c ∧ registry'.latest? name = some c' ∧ c.Alike r c' :=
  Outcome.find?_related (fun c c' hc => by rw [hc.ref]) (List.rel_reverse h)

theorem findAll (h : registry.Alike r registry') (refs : List RecordRef) :
    List.Forall₂ (RecordClass.Alike r) (registry.findAll refs) (registry'.findAll refs) :=
  findAll_related (fun _ _ hc => hc.ref) h refs

theorem bases (h : registry.Alike r registry') (names : List String) :
    List.Forall₂ (RecordClass.Alike r) (names.filterMap registry.latest?)
      (names.filterMap registry'.latest?) := by
  refine List.rel_filterMap (R := Eq) ?_ (List.forall₂_same.mpr fun _ _ => rfl)
  rintro name _ rfl
  exact Outcome.rel_of_related (h.latest? name)

/-! ### Scopes -/

theorem sharedAmong? (h : registry.Alike r registry') (ancestry : List RecordRef) (name : String) :
    registry.sharedAmong? ancestry name = registry'.sharedAmong? ancestry name :=
  Outcome.findSome?_related (fun _ _ hc => ownShared?_of_recast hc.ref hc.own name)
    (h.findAll ancestry)

theorem sharedDefault? (h : registry.Alike r registry') :
    (fun ref name => (registry.find? ref).bind fun c => registry.sharedDefault? c name) =
      fun ref name => (registry'.find? ref).bind fun c => registry'.sharedDefault? c name := by
  funext ref name
  rcases h.find? ref with ⟨hnone, hnone'⟩ | ⟨c, c', hc, hc', halike⟩
  · rw [hnone, hnone']
    rfl
  · rw [hc, hc', Option.bind_some, Option.bind_some, Registry.sharedDefault?, halike.ancestry,
      h.sharedAmong?]
    rfl

theorem latestType? (h : registry.Alike r registry') (name : String) :
    registry.latestType? name = registry'.latestType? name := by
  unfold Registry.latestType?
  rcases h.latest? name with ⟨hnone, hnone'⟩ | ⟨c, c', hc, hc', halike⟩
  · rw [hnone, hnone']
  · rw [hc, hc', Option.map_some, Option.map_some, halike.ref]

variable {c c' : RecordClass}

theorem scopeOf (h : registry.Alike r registry') (href : c.ref = c'.ref)
    (hown : List.Forall₂ FieldDecl.Recast c.own c'.own) :
    registry.scopeOf c = registry'.scopeOf c' := by
  unfold Registry.scopeOf
  congr 1
  · funext name
    rw [h.latestType?, ownShared?_of_recast href hown]
  · exact h.sharedDefault?

theorem modelScope (h : registry.Alike r registry') (href : c.ref = c'.ref)
    (hown : List.Forall₂ FieldDecl.Recast c.own c'.own)
    {attribute? attribute?' : String → Option TypeExpr}
    (hattribute : ∀ name, attribute? name = attribute?' name) :
    registry.modelScope c attribute? = registry'.modelScope c' attribute?' := by
  unfold Registry.modelScope
  rw [h.scopeOf href hown, href]
  congr 1
  funext name
  rw [hattribute, h.latestType?]

theorem definitionScope (h : registry.Alike r registry') (href : c.ref = c'.ref)
    (hown : List.Forall₂ FieldDecl.Recast c.own c'.own) :
    registry.definitionScope c = registry'.definitionScope c' := by
  refine h.modelScope href hown fun name => ?_
  rw [href, ownShared?_of_recast href hown]
  have hattribute : declaredAttribute? c.own name = declaredAttribute? c'.own name := by
    unfold declaredAttribute?
    have hname : ∀ field field' : FieldDecl, field.Recast field' →
        (field.name == name) = (field'.name == name) := fun _ _ h => by rw [h.name]
    rcases Outcome.find?_related hname hown with ⟨hnone, hnone'⟩ | ⟨field, field', hfind, hfind', h⟩
    · rw [hnone, hnone']
    · rw [hfind, hfind', Option.bind_some, Option.bind_some, h.default, h.bare]
  rw [hattribute]

/-! ### Definitions -/

theorem inheritedFields (h : registry.Alike r registry') (hc : c.Alike RecordClass.Recast c')
    {fields fields' : List ModelField}
    (hfields : registry.inheritedFields c = .ok fields)
    (hfields' : registry'.inheritedFields c' = .ok fields') :
    List.Forall₂ ModelField.Recast fields fields' := by
  unfold Registry.inheritedFields at hfields hfields'
  rw [← hc.isModel] at hfields'
  split at hfields
  next hmodel =>
    rw [if_pos hmodel] at hfields'
    obtain rfl := Except.ok.inj hfields
    obtain rfl := Except.ok.inj hfields'
    exact hc.models
  next hmodel =>
    rw [if_neg hmodel, ← h.definitionScope hc.ref hc.own] at hfields'
    refine Outcome.forall₂_of_mapM hc.own hfields hfields' fun field field' _ _ hfield => ?_
    have hcopied : FieldDecl.Recast { field with default := none } { field' with default := none } :=
      ⟨hfield.name, hfield.type, rfl, hfield.tag, hfield.loaded, hfield.bare⟩
    exact declaredField_recast hcopied

/-- The ancestors of a record that is reached are looked up alike. -/
theorem ancestors
    (h : registry.Alike (WhereReached reached reached' (RecordClass.RecastSince before before'))
      registry')
    (hancestry : c.ancestry = c'.ancestry) (hgrounded : c.Grounded reached before)
    (hgrounded' : c'.Grounded reached' before') (hreached : reached c.ref)
    (hreached' : reached' c'.ref) {refs : List RecordRef} (hrefs : refs ⊆ c.ancestry) :
    List.Forall₂ (RecordClass.Alike RecordClass.Recast) (registry.findAll refs)
      (registry'.findAll refs) := by
  have hbases : ∀ base ∈ registry.findAll refs, _ :=
    reached_of_mem_findAll hgrounded hreached hrefs
  have hbases' : ∀ base ∈ registry'.findAll refs, _ :=
    reached_of_mem_findAll hgrounded' hreached' (hancestry ▸ hrefs)
  refine (Outcome.forall₂_and hbases hbases' (h.findAll refs)).imp ?_
  rintro _ _ ⟨⟨hbase, hcomplete⟩, ⟨hbase', hcomplete'⟩, halike⟩
  exact { halike with models := halike.models hbase hbase' hcomplete hcomplete' }

theorem fieldsAsModel (h : registry.Alike r registry') (href : c.ref = c'.ref)
    (hancestry : c.ancestry = c'.ancestry) (hown : List.Forall₂ FieldDecl.Recast c.own c'.own)
    (hancestors : List.Forall₂ (RecordClass.Alike RecordClass.Recast)
      (registry.findAll c.ancestry.tail.reverse) (registry'.findAll c.ancestry.tail.reverse))
    {declared declared' : List FieldDecl}
    (hdeclared : List.Forall₂ FieldDecl.Recast declared declared') {fields fields' : List ModelField}
    (hfields : registry.fieldsAsModel c declared = .ok fields)
    (hfields' : registry'.fieldsAsModel c' declared' = .ok fields') :
    List.Forall₂ ModelField.Recast fields fields' := by
  obtain ⟨inherited, own, hinherited, howns, rfl⟩ := fieldsAsModel_eq_ok hfields
  obtain ⟨inherited', own', hinherited', howns', rfl⟩ := fieldsAsModel_eq_ok hfields'
  rw [← hancestry] at hinherited'
  rw [← h.definitionScope href hown] at howns'
  have hupper : List.Forall₂ (List.Forall₂ ModelField.Recast) inherited inherited' :=
    Outcome.forall₂_of_mapM hancestors hinherited hinherited' fun _ _ _ _ hc hfields hfields' =>
      h.inheritedFields hc hfields hfields'
  have hlower : List.Forall₂ ModelField.Recast own own' :=
    Outcome.forall₂_of_mapM hdeclared howns howns' fun _ _ _ _ hfield hstep hstep' =>
      declaredField_recast hfield hstep hstep'
  have hkept : ∀ field field' : ModelField, field.Recast field' →
      (isModelField field.name = true ↔ isModelField field'.name = true) :=
    fun _ _ hfield => by rw [hfield.name]
  refine List.rel_filter (fun _ _ hfield => hkept _ _ hfield) ?_
  refine mergeFields_related (fun field field' hfield => hfield.name) ?_
  rw [List.flatten_cons, List.flatten_singleton, List.flatten_cons, List.flatten_singleton]
  refine List.rel_append ?_ hlower
  rw [List.forall₂_map_left_iff, List.forall₂_map_right_iff]
  refine (List.rel_flatten hupper).imp fun field field' hfield => hfield.withDefault ?_
  rw [h.sharedAmong?, hancestry, hfield.name, hfield.default]

theorem fieldsAsData (h : registry.Alike r registry') (kind : RecordKind)
    {own own' : List FieldDecl} (hown : List.Forall₂ FieldDecl.Recast own own')
    (ancestors : List RecordRef) :
    Option.Rel (List.Forall₂ FieldDecl.Recast) (registry.fieldsAsData kind own ancestors)
      (registry'.fieldsAsData kind own' ancestors) := by
  cases kind with
  | data =>
    refine .some (mergeFields_related (fun field field' hfield => hfield.name) ?_)
    rw [List.flatten_append, List.flatten_append, List.flatten_singleton, List.flatten_singleton]
    refine List.rel_append (List.rel_flatten ?_) hown
    exact List.rel_filterMap (fun c c' hc => hc.dataFields) (h.findAll ancestors.reverse)
  | model =>
    unfold Registry.fieldsAsData
    have hkind : ∀ c c' : RecordClass, c.Alike r c' →
        decide (c.ref.kind = .data) = decide (c'.ref.kind = .data) := fun _ _ hc => by rw [hc.ref]
    rcases Outcome.find?_related hkind (h.findAll ancestors) with
      ⟨hnone, hnone'⟩ | ⟨c, c', hc, hc', halike⟩
    · rw [hnone, hnone']
      exact .none
    · rw [hc, hc']
      exact halike.dataFields

theorem filled (h : registry.Alike r registry') (ancestors : List RecordRef)
    {fields fields' : List FieldDecl} (hfields : List.Forall₂ FieldDecl.Recast fields fields') :
    List.Forall₂ FieldDecl.Recast (fields.map (registry.filled ancestors))
      (fields'.map (registry'.filled ancestors)) := by
  rw [List.forall₂_map_left_iff, List.forall₂_map_right_iff]
  refine hfields.imp fun field field' hfield => ?_
  have hdefault : (field.default <|> registry.sharedAmong? ancestors field.name) =
      (field'.default <|> registry'.sharedAmong? ancestors field'.name) := by
    rw [hfield.default, hfield.name, h.sharedAmong?]
  unfold Registry.filled
  by_cases hbare : field.bare = true
  · rw [if_pos hbare, if_pos (hfield.bare ▸ hbare)]
    exact { hfield with default := hdefault }
  · rw [if_neg hbare, if_neg (hfield.bare ▸ hbare)]
    exact hfield

theorem belowModel (h : registry.Alike r registry') (ancestors : List RecordRef)
    {field field' : FieldDecl} (hfield : field.Recast field') :
    (registry.belowModel ancestors field).Recast (registry'.belowModel ancestors field') where
  name := hfield.name
  type := hfield.type
  default := by
    show registry.sharedAmong? ancestors field.name = registry'.sharedAmong? ancestors field'.name
    rw [h.sharedAmong?, hfield.name]
  tag := rfl
  loaded := rfl
  bare := hfield.bare

theorem ancestorsOf_alike (kind : RecordKind) {bases bases' : List RecordClass}
    (hbases : List.Forall₂ (RecordClass.Alike r) bases bases') :
    ancestorsOf kind bases = ancestorsOf kind bases' := by
  have hrefs : bases.map (·.ref) = bases'.map (·.ref) :=
    Outcome.map_eq_of_forall₂ (fun _ _ hc => hc.ref) hbases
  have hancestries : bases.map (·.ancestry) = bases'.map (·.ancestry) :=
    Outcome.map_eq_of_forall₂ (fun _ _ hc => hc.ancestry) hbases
  cases hbases with
  | nil => rfl
  | @cons c c' rest rest' _ _ =>
    unfold ancestorsOf
    cases hduplicate : duplicate? ((c :: rest).map (·.ref)) with
    | some ref =>
      rw [hrefs] at hduplicate
      rw [hduplicate]
    | none =>
      rw [hrefs] at hduplicate
      rw [hduplicate]
      show Except.mapError _ (linearize ((c :: rest).map (·.ancestry)) ((c :: rest).map (·.ref))) = _
      rw [hrefs, hancestries]

/-- Declarations that differ in what derivation does not see lead to records that are alike. -/
theorem classOf
    (h : registry.Alike (WhereReached reached reached' (RecordClass.RecastSince before before'))
      registry')
    {decl decl' : RecordDecl} (hdecl : decl.Recast decl')
    (hc : registry.classOf decl (decl.bases.filterMap registry.latest?) = .ok c)
    (hc' : registry'.classOf decl' (decl'.bases.filterMap registry'.latest?) = .ok c')
    (hgrounded : c.Grounded reached before) (hgrounded' : c'.Grounded reached' before') :
    c.Alike (WhereReached reached reached' RecordClass.Recast) c' := by
  obtain ⟨ancestors, hancestors, href, hancestry, hown, hdata, hmodel⟩ := classOf_eq_ok hc
  obtain ⟨ancestors', hancestors', href', hancestry', hown', hdata', hmodel'⟩ := classOf_eq_ok hc'
  rw [ancestorsOf_alike decl.kind (h.bases decl.bases), hdecl.kind, hdecl.bases] at hancestors
  obtain rfl := Except.ok.inj (hancestors.symm.trans hancestors')
  have hrefs : c.ref = c'.ref := by
    rw [href, href', hdecl.kind, hdecl.name, hdecl.frozen, List.Forall₂.length_eq h]
  have hdeclared : List.Forall₂ FieldDecl.Recast (mergeFields FieldDecl.name [decl.fields])
      (mergeFields FieldDecl.name [decl'.fields]) := by
    refine mergeFields_related (fun field field' hfield => hfield.name) ?_
    rw [List.flatten_singleton, List.flatten_singleton]
    exact hdecl.fields
  have howns : List.Forall₂ FieldDecl.Recast c.own c'.own := by
    rw [hown, hown', ← hdecl.kind]
    split
    · rw [List.forall₂_map_left_iff, List.forall₂_map_right_iff]
      exact hdeclared.imp fun _ _ hfield => h.belowModel ancestors hfield
    · exact hdeclared
  have hancestries : c.ancestry = c'.ancestry := by
    rw [hancestry, hancestry', hrefs]
  refine ⟨hrefs, hancestries, howns, ?_, fun hreached hreached' => ?_⟩
  · rw [hdata, hdata', ← hdecl.kind]
    exact h.fieldsAsData decl.kind (h.filled ancestors howns) ancestors
  · split at hmodel
    next hroot =>
      rw [if_pos hroot] at hmodel'
      refine h.fieldsAsModel hrefs hancestries howns ?_ (h.filled ancestors hdeclared) hmodel hmodel'
      refine h.ancestors hancestries hgrounded hgrounded' hreached hreached' fun ref href => ?_
      exact List.mem_of_mem_tail (List.mem_reverse.mp href)
    next hroot =>
      rw [if_neg hroot] at hmodel'
      unfold RecordClass.Recast
      rw [hmodel, hmodel']
      exact .nil

/-! ### Settling -/

theorem settle (h : registry.Alike r registry')
    (hc : c.Alike (WhereReached reached reached' RecordClass.Recast) c')
    {settled settled' : RecordClass} (hsettle : registry.settle c = .ok settled)
    (hsettle' : registry'.settle c' = .ok settled') :
    settled.Alike (WhereReached reached reached' RecordClass.Settled) settled' := by
  have hkept := settle_eq_ok hsettle
  have hkept' := settle_eq_ok hsettle'
  refine ⟨?_, ?_, ?_, ?_, fun hreached hreached' hcomplete hcomplete' => ?_⟩
  · rw [hkept, hkept', hc.ref]
  · rw [hkept, hkept', hc.ancestry]
  · rw [hkept, hkept']
    exact hc.own
  · rw [hkept, hkept']
    exact hc.dataFields
  · have hmodels := hc.models (by rwa [hkept] at hreached) (by rwa [hkept'] at hreached')
    have hfound := settle_of_complete hsettle hcomplete
    have hfound' := settle_of_complete hsettle' hcomplete'
    rw [← h.modelScope hc.ref hc.own fun _ => rfl] at hfound'
    exact Outcome.forall₂_across hmodels (completeFields?_eq_ok hfound)
      (completeFields?_eq_ok hfound') fun _ _ _ _ hfield => hfield.resembles

end Alike

/-! ## Batches -/

/-- What is known within a batch of the records that were there before and of those that are new. -/
theorem Alike.append
    (h : before.Alike (WhereReached reached reached' RecordClass.Settled) before')
    {new new' : List RecordClass}
    (hnew : List.Forall₂ (RecordClass.Alike (WhereReached reached reached' RecordClass.Recast))
      new new')
    (hclasses : registry.classes = before.classes ++ new)
    (hclasses' : registry'.classes = before'.classes ++ new') :
    registry.Alike (WhereReached reached reached' (RecordClass.RecastSince before before'))
      registry' := by
  unfold Registry.Alike
  rw [hclasses, hclasses']
  refine List.rel_append ?_ (hnew.imp fun _ _ hc =>
    { hc with models := fun hreached hreached' _ _ => hc.models hreached hreached' })
  have hmembers := Outcome.forall₂_and (fun c hc => hc) (fun c' hc' => hc') h
  refine hmembers.imp fun c c' ⟨hc, hc', halike⟩ => { halike with models := ?_ }
  exact fun hreached hreached' hcomplete hcomplete' =>
    (halike.models hreached hreached').recast (hcomplete hc) (hcomplete' hc')

/-- A batch on either side of which the records so far are alike, if those that are reached inherit from
none before it that is not complete. -/
def Batch (reached reached' : RecordRef → Prop) (before before' registry registry' : Registry) :
    Prop :=
  ∃ new new', registry.classes = before.classes ++ new ∧
    registry'.classes = before'.classes ++ new' ∧
    ((∀ c ∈ new, c.Grounded reached before) → (∀ c ∈ new', c.Grounded reached' before') →
      List.Forall₂ (RecordClass.Alike (WhereReached reached reached' RecordClass.Recast)) new new')

variable {next next' : Registry}

theorem Batch.define
    (hbefore : before.Alike (WhereReached reached reached' RecordClass.Settled) before')
    (h : Batch reached reached' before before' registry registry') {decl decl' : RecordDecl}
    (hdecl : decl.Recast decl') (hdefine : registry.define decl = .ok next)
    (hdefine' : registry'.define decl' = .ok next') :
    Batch reached reached' before before' next next' := by
  obtain ⟨new, new', hclasses, hclasses', hnew⟩ := h
  obtain ⟨c, hc, hnext⟩ := define_eq_ok hdefine
  obtain ⟨c', hc', hnext'⟩ := define_eq_ok hdefine'
  refine ⟨new ++ [c], new' ++ [c'], ?_, ?_, fun hgrounded hgrounded' => ?_⟩
  · rw [hnext, hclasses, List.append_assoc]
  · rw [hnext', hclasses', List.append_assoc]
  · rw [List.forall_mem_append, List.forall_mem_singleton] at hgrounded hgrounded'
    have hsofar := hnew hgrounded.1 hgrounded'.1
    have halike := hbefore.append hsofar hclasses hclasses'
    exact List.rel_append hsofar (.cons (halike.classOf hdecl hc hc' hgrounded.2 hgrounded'.2) .nil)

/-- Batches of declarations that differ in what derivation does not see lead from registries that are
alike to registries that are. -/
theorem Alike.defineAll
    (h : before.Alike (WhereReached reached reached' RecordClass.Settled) before')
    {decls decls' : List RecordDecl} (hdecls : List.Forall₂ RecordDecl.Recast decls decls')
    (hdefine : before.defineAll decls = .ok next) (hdefine' : before'.defineAll decls' = .ok next')
    (hgrounded : ∀ c ∈ next.classes.drop before.classes.length, c.Grounded reached before)
    (hgrounded' : ∀ c ∈ next'.classes.drop before'.classes.length, c.Grounded reached' before') :
    next.Alike (WhereReached reached reached' RecordClass.Settled) next' := by
  obtain ⟨defined, _, settled, hdefined, hclasses, hsettled, hnext⟩ := defineAll_eq_ok hdefine
  obtain ⟨defined', _, settled', hdefined', hclasses', hsettled', hnext'⟩ := defineAll_eq_ok hdefine'
  have hstart : Batch reached reached' before before' before before' :=
    ⟨[], [], (List.append_nil _).symm, (List.append_nil _).symm, fun _ _ => .nil⟩
  obtain ⟨new, new', hnew, hnew', hbatch⟩ : Batch reached reached' before before' defined defined' :=
    Outcome.related_of_foldlM hdecls hstart hdefined hdefined' fun _ _ _ _ _ _ hsofar hdecl =>
      hsofar.define h hdecl
  obtain rfl := List.append_cancel_left (hclasses.symm.trans hnew)
  obtain rfl := List.append_cancel_left (hclasses'.symm.trans hnew')
  rw [hnext, List.drop_left] at hgrounded
  rw [hnext', List.drop_left] at hgrounded'
  have hall := hbatch (grounded_of_settled hsettled hgrounded) (grounded_of_settled hsettled' hgrounded')
  have halike := h.append hall hclasses hclasses'
  unfold Registry.Alike
  rw [hnext, hnext']
  refine List.rel_append h ?_
  exact Outcome.forall₂_across hall hsettled hsettled' fun _ _ _ _ hc hstep hstep' =>
    halike.settle hc hstep hstep'

/-! ## Registries -/

/-- Registries that the same definitions lead to, but for what derivation does not see of the types of
fields.  The models of earlier batches that a record inherits from have nothing left to look up if the
record is reached; nothing is asked of the other records. -/
inductive Recast (reached reached' : RecordRef → Prop) : Registry → Registry → Prop
  | initial : Recast reached reached' initial initial
  | define {registry registry' next next' : Registry} {decls decls' : List RecordDecl}
      (hbefore : Recast reached reached' registry registry')
      (hdecls : List.Forall₂ RecordDecl.Recast decls decls')
      (hdefine : registry.defineAll decls = .ok next)
      (hdefine' : registry'.defineAll decls' = .ok next')
      (hcomplete : ∀ c ∈ next.classes.drop registry.classes.length, reached c.ref →
        c.CompleteAbove registry)
      (hcomplete' : ∀ c ∈ next'.classes.drop registry'.classes.length, reached' c.ref →
        c.CompleteAbove registry') :
      Recast reached reached' next next'

theorem Recast.symm (h : Recast reached reached' registry registry') :
    Recast reached' reached registry' registry := by
  induction h with
  | initial => exact .initial
  | define _ hdecls hdefine hdefine' hcomplete hcomplete' ih =>
    exact .define ih (hdecls.flip.imp fun _ _ hdecl => hdecl.symm) hdefine' hdefine hcomplete' hcomplete

theorem alike_initial :
    initial.Alike (WhereReached reached reached' RecordClass.Settled) initial := by
  refine List.forall₂_same.mpr fun c hc => ?_
  have hempty := (RecordClass.forall_library (P := fun c => c.own = [] ∧ c.dataFields = none)).mpr
    ⟨⟨rfl, rfl⟩, rfl, rfl⟩ c hc
  refine ⟨rfl, rfl, ?_, ?_, fun _ _ _ _ => List.forall₂_same.mpr fun _ _ => ⟨rfl, rfl, rfl, rfl⟩⟩
  · rw [hempty.1]
    exact .nil
  · rw [hempty.2]
    exact .none

/-- Where a record is reached, so are those that it inherits from. -/
def ReachesAbove (reached : RecordRef → Prop) (registry : Registry) : Prop :=
  ∀ c ∈ registry.classes, reached c.ref → ∀ ref ∈ c.ancestry, reached ref

theorem ReachesAbove.of_grown (h : next.ReachesAbove reached)
    (hgrown : registry.classes <+: next.classes) : registry.ReachesAbove reached :=
  fun c hc => h c (hgrown.subset hc)

theorem Recast.alike (h : Recast reached reached' registry registry')
    (habove : registry.ReachesAbove reached) (habove' : registry'.ReachesAbove reached') :
    registry.Alike (WhereReached reached reached' RecordClass.Settled) registry' := by
  induction h with
  | initial => exact alike_initial
  | define _ hdecls hdefine hdefine' hcomplete hcomplete' ih =>
    have hbefore := ih (habove.of_grown (defineAll_grows hdefine))
      (habove'.of_grown (defineAll_grows hdefine'))
    refine hbefore.defineAll hdecls hdefine hdefine' (fun c hc => ?_) (fun c hc => ?_)
    · exact ⟨habove c (List.mem_of_mem_drop hc), hcomplete c hc⟩
    · exact ⟨habove' c (List.mem_of_mem_drop hc), hcomplete' c hc⟩

end Registry
end Schematic
