import Mathlib.Logic.Relation
import Schematic.Proofs.Outcome
import Schematic.Proofs.Value.Members
import Schematic.Record.Definition

/-!
What the definition of records comes to, once every check is passed.  Definitions only add records:
one that was defined before stays what it was, also where a later one takes over its name.
-/

namespace Schematic
namespace Registry

/-- The checks that a data record has to pass once its class is known. -/
structure PassesChecks (registry : Registry) (decl : RecordDecl) (c : RecordClass) : Prop where
  names : checkNames [] (decl.fields.map (·.name)) = .ok ()
  className : checkClassName decl.name = .ok ()
  defaults : checkDefaults c.own = .ok ()
  frozen : checkFrozen decl.frozen (registry.findAll c.ancestry.tail) = .ok ()
  parameters : checkParameters (c.dataFields.getD []) = .ok ()

instance (registry : Registry) (decl : RecordDecl) (c : RecordClass) :
    Decidable (registry.PassesChecks decl c) :=
  decidable_of_iff
    (checkNames [] (decl.fields.map (·.name)) = .ok () ∧ checkClassName decl.name = .ok () ∧
      checkDefaults c.own = .ok () ∧
      checkFrozen decl.frozen (registry.findAll c.ancestry.tail) = .ok () ∧
      checkParameters (c.dataFields.getD []) = .ok ())
    ⟨fun ⟨h₁, h₂, h₃, h₄, h₅⟩ => ⟨h₁, h₂, h₃, h₄, h₅⟩, fun ⟨h₁, h₂, h₃, h₄, h₅⟩ => ⟨h₁, h₂, h₃, h₄, h₅⟩⟩

/-- A data record that passes its checks is added to those defined before. -/
theorem define_data {registry : Registry} {decl : RecordDecl} {c : RecordClass}
    (hkind : decl.kind = .data)
    (hclass : registry.classOf decl (decl.bases.filterMap registry.latest?) = .ok c)
    (hchecks : registry.PassesChecks decl c) :
    registry.define decl = .ok ⟨registry.classes ++ [c]⟩ := by
  obtain ⟨hnames, hname, hdefaults, hfrozen, hparameters⟩ := hchecks
  unfold define
  rw [hkind]
  simp only [hnames, hname, hclass]
  show (do
    checkDefaults c.own
    checkFrozen decl.frozen (registry.findAll c.ancestry.tail)
    checkParameters (c.dataFields.getD [])
    return ⟨registry.classes ++ [c]⟩ : Except DefinitionFault Registry) = _
  rw [hdefaults, hfrozen, hparameters]
  rfl

/-- Records are defined together once each of them is and those that are new are settled. -/
theorem defineAll_of_settled {registry defined settled : Registry} {decls : List RecordDecl}
    (hdefine : decls.foldlM define registry = .ok defined)
    (hsettle : defined.settleFrom registry.classes.length = .ok settled) :
    registry.defineAll decls = .ok settled := by
  rw [defineAll, hdefine]
  exact hsettle

variable {registry next : Registry}

theorem ref_of_find? {ref : RecordRef} {c : RecordClass} (h : registry.find? ref = some c) :
    c.ref = ref := by
  simpa using List.find?_some h

theorem defineAll_single {decl : RecordDecl} (hdefine : registry.define decl = .ok next)
    (hsettle : next.settleFrom registry.classes.length = .ok next) :
    registry.defineAll [decl] = .ok next :=
  defineAll_of_settled (Outcome.foldlM_cons_of_ok hdefine []) hsettle

/-- A definition adds the class of the declaration to those before. -/
theorem define_eq_ok {decl : RecordDecl} (h : registry.define decl = .ok next) :
    ∃ c, registry.classOf decl (decl.bases.filterMap registry.latest?) = .ok c ∧
      next.classes = registry.classes ++ [c] := by
  unfold define at h
  dsimp only at h
  split at h
  next =>
    obtain ⟨-, -, h⟩ := Outcome.bind_eq_ok h
    obtain ⟨-, -, h⟩ := Outcome.bind_eq_ok h
    obtain ⟨c, hc, h⟩ := Outcome.bind_eq_ok h
    obtain ⟨-, -, h⟩ := Outcome.bind_eq_ok h
    obtain ⟨-, -, h⟩ := Outcome.bind_eq_ok h
    obtain ⟨-, -, h⟩ := Outcome.bind_eq_ok h
    obtain rfl := Except.ok.inj h
    exact ⟨c, hc, rfl⟩
  next =>
    have hclass : ∃ c, registry.classOf decl (decl.bases.filterMap registry.latest?) = .ok c ∧
        (if c.isModel = true then pure ⟨registry.classes ++ [c]⟩
          else throw (.noModelBase decl.name) : Except DefinitionFault Registry) = .ok next := by
      split at h
      next =>
        obtain ⟨-, -, h⟩ := Outcome.bind_eq_ok h
        obtain ⟨-, -, h⟩ := Outcome.bind_eq_ok h
        exact Outcome.bind_eq_ok h
      next =>
        obtain ⟨-, -, h⟩ := Outcome.bind_eq_ok h
        exact Outcome.bind_eq_ok h
    obtain ⟨c, hc, h⟩ := hclass
    split at h
    next =>
      obtain rfl := Except.ok.inj h
      exact ⟨c, hc, rfl⟩
    next => cases h

theorem define_grows {decl : RecordDecl} (h : registry.define decl = .ok next) :
    ∃ c, next.classes = registry.classes ++ [c] := by
  obtain ⟨c, -, hc⟩ := define_eq_ok h
  exact ⟨c, hc⟩

theorem defines_grow {decls : List RecordDecl} (h : decls.foldlM define registry = .ok next) :
    registry.classes <+: next.classes := by
  refine Outcome.foldlM_invariant (P := fun r => registry.classes <+: r.classes) ?_
    (List.prefix_refl _) h
  intro r decl r' hr hstep
  obtain ⟨c, hc⟩ := define_grows hstep
  rw [hc]
  exact hr.trans (List.prefix_append _ _)

/-- Records are defined one after the other, and then those that are new are settled one by one. -/
theorem defineAll_eq_ok {decls : List RecordDecl} (h : registry.defineAll decls = .ok next) :
    ∃ defined new settled, decls.foldlM define registry = .ok defined ∧
      defined.classes = registry.classes ++ new ∧
      List.Forall₂ (fun c s => defined.settle c = .ok s) new settled ∧
      next.classes = registry.classes ++ settled := by
  obtain ⟨defined, hdefined, hsettled⟩ := Outcome.bind_eq_ok h
  obtain ⟨new, hnew⟩ := defines_grow hdefined
  obtain ⟨settled, hsettle, hresult⟩ := Outcome.bind_eq_ok hsettled
  obtain rfl := Except.ok.inj hresult
  rw [← hnew, List.drop_left] at hsettle
  refine ⟨defined, new, settled, hdefined, hnew.symm,
    Outcome.mapM_eq_ok (Outcome.mapError_eq_ok hsettle), ?_⟩
  rw [← hnew, List.take_left]

/-- Definitions leave the records that were defined before as they are. -/
theorem defineAll_grows {decls : List RecordDecl} (h : registry.defineAll decls = .ok next) :
    registry.classes <+: next.classes := by
  obtain ⟨_, _, settled, -, -, -, hnext⟩ := defineAll_eq_ok h
  exact ⟨settled, hnext.symm⟩

/-- Further definitions lead from one registry to another. -/
def Before : Registry → Registry → Prop :=
  Relation.ReflTransGen fun registry next => ∃ decls, registry.defineAll decls = .ok next

theorem Before.grows (h : registry.Before next) : registry.classes <+: next.classes := by
  induction h with
  | refl => exact List.prefix_refl _
  | tail _ hstep ih =>
    obtain ⟨decls, hdefine⟩ := hstep
    exact ih.trans (defineAll_grows hdefine)

end Registry

/-! ## Lookups of the types of models -/

/-- The field of a model whose type is looked up, or kept as it is because of a name that is unknown. -/
inductive ModelField.LooksUp (scope : Reference.Scope) (type : TypeExpr) (field : ModelField) : Prop
  | found (hcomplete : field.isComplete = true)
      (hfound : Reference.resolve scope type = .ok field.type)
  | unknown (name : String) (hincomplete : field.isComplete = false) (htype : field.type = type)
      (hunknown : Reference.resolve scope type = .error (.unknownName name))

/-- The field of a model with its type looked up, if it is still to be. -/
structure ModelField.CompletesTo (scope : Reference.Scope) (field found : ModelField) : Prop where
  name : found.name = field.name
  default : found.default = field.default
  isComplete : found.isComplete = true
  complete : field.isComplete = true → found.type = field.type
  incomplete : field.isComplete = false → Reference.resolve scope field.type = .ok found.type

/-! ## Distinct names -/

/-- The fields of a record have distinct names, both as a data record and as a model. -/
structure RecordClass.DistinctFields (c : RecordClass) : Prop where
  data : ∀ decls, c.dataFields = some decls → (decls.map (·.name)).Nodup
  model : (c.modelFields.map (·.name)).Nodup

theorem mergeFields_eq {α : Type} (name : α → String) (groups : List (List α)) :
    mergeFields name groups =
      ((groups.flatten.map fun field => (name field, field)).foldl
        (fun found p => Value.putMember p.1 p.2 found) []).map Prod.snd := by
  rw [List.foldl_map]
  rfl

theorem nodup_mergeFields {α : Type} (name : α → String) (groups : List (List α)) :
    ((mergeFields name groups).map name).Nodup := by
  let named : List (String × α) := groups.flatten.map fun field => (name field, field)
  have hname : ∀ p ∈ named.foldl (fun found p => Value.putMember p.1 p.2 found) [],
      name p.2 = p.1 := by
    intro p hp
    rcases Value.mem_putMembers hp with hmem | hnil
    · obtain ⟨field, -, rfl⟩ := List.mem_map.mp hmem
      rfl
    · cases hnil
  have hnames : ((named.foldl (fun found p => Value.putMember p.1 p.2 found) []).map
      (name ∘ Prod.snd)) =
      (named.foldl (fun found p => Value.putMember p.1 p.2 found) []).map Prod.fst :=
    List.map_congr_left hname
  rw [mergeFields_eq, List.map_map, hnames]
  exact Value.nodup_putMembers List.nodup_nil

/-- Fields that are related and have the same names are merged in the same way. -/
theorem mergeFields_related {α β : Type} {name : α → String} {name' : β → String} {r : α → β → Prop}
    (hname : ∀ a b, r a b → name a = name' b) {groups : List (List α)} {groups' : List (List β)}
    (h : List.Forall₂ r groups.flatten groups'.flatten) :
    List.Forall₂ r (mergeFields name groups) (mergeFields name' groups') := by
  have hnamed : Value.MembersRelated r (groups.flatten.map fun field => (name field, field))
      (groups'.flatten.map fun field => (name' field, field)) := by
    unfold Value.MembersRelated
    rw [List.forall₂_map_left_iff, List.forall₂_map_right_iff]
    exact h.imp fun a b hab => ⟨hname a b hab, hab⟩
  rw [mergeFields_eq, mergeFields_eq, List.forall₂_map_left_iff, List.forall₂_map_right_iff]
  exact (hnamed.putMembers .nil).imp fun p q hpq => hpq.2

namespace Registry

variable {registry next : Registry}

/-- The fields of a model are those that it inherits, with the defaults that data records among its
ancestors share, and those that it declares. -/
theorem fieldsAsModel_eq_ok {c : RecordClass} {declared : List FieldDecl} {fields : List ModelField}
    (h : registry.fieldsAsModel c declared = .ok fields) :
    ∃ inherited own,
      (registry.findAll c.ancestry.tail.reverse).mapM registry.inheritedFields = .ok inherited ∧
      declared.mapM (declaredField (registry.definitionScope c)) = .ok own ∧
      fields = (mergeFields ModelField.name [inherited.flatten.map fun field =>
        { field with default := registry.sharedAmong? c.ancestry.tail field.name <|> field.default },
        own]).filter fun f => isModelField f.name := by
  unfold fieldsAsModel at h
  obtain ⟨inherited, hinherited, h⟩ := Outcome.bind_eq_ok h
  obtain ⟨own, hown, h⟩ := Outcome.bind_eq_ok h
  refine ⟨inherited, own, hinherited, hown, ?_⟩
  dsimp only at h
  split at h
  next => cases h
  next => exact (Except.ok.inj h).symm

theorem nodup_fieldsAsModel {c : RecordClass} {declared : List FieldDecl}
    {fields : List ModelField} (h : registry.fieldsAsModel c declared = .ok fields) :
    (fields.map (·.name)).Nodup := by
  obtain ⟨inherited, own, -, -, rfl⟩ := fieldsAsModel_eq_ok h
  exact (nodup_mergeFields ModelField.name _).sublist (List.filter_sublist.map _)

theorem classOf_eq_ok {decl : RecordDecl} {bases : List RecordClass} {c : RecordClass}
    (h : registry.classOf decl bases = .ok c) :
    ∃ ancestors, ancestorsOf decl.kind bases = .ok ancestors ∧
      c.ref = ⟨registry.classes.length, decl.kind, recordModule, decl.name,
        decl.frozen && decl.kind = .data⟩ ∧
      c.ancestry = c.ref :: ancestors ∧
      c.own = (if decl.kind = .data && ancestors.contains .modelRoot then
        (mergeFields FieldDecl.name [decl.fields]).map (registry.belowModel ancestors)
        else mergeFields FieldDecl.name [decl.fields]) ∧
      c.dataFields =
        registry.fieldsAsData decl.kind (c.own.map (registry.filled ancestors)) ancestors ∧
      if ancestors.contains .modelRoot then
        registry.fieldsAsModel { c with modelFields := [] }
          ((mergeFields FieldDecl.name [decl.fields]).map (registry.filled ancestors)) =
            .ok c.modelFields
      else c.modelFields = [] := by
  unfold classOf at h
  obtain ⟨ancestors, hancestors, h⟩ := Outcome.bind_eq_ok h
  refine ⟨ancestors, hancestors, ?_⟩
  dsimp only at h
  split at h
  next hmodel =>
    obtain ⟨fields, hfields, h⟩ := Outcome.bind_eq_ok h
    obtain rfl := Except.ok.inj h
    refine ⟨rfl, rfl, rfl, rfl, ?_⟩
    rw [if_pos hmodel]
    exact Outcome.mapError_eq_ok hfields
  next hmodel =>
    obtain rfl := Except.ok.inj h
    refine ⟨rfl, rfl, rfl, rfl, ?_⟩
    rw [if_neg hmodel]

theorem classOf_distinctFields {decl : RecordDecl} {bases : List RecordClass} {c : RecordClass}
    (hregistry : ∀ c ∈ registry.classes, c.DistinctFields)
    (h : registry.classOf decl bases = .ok c) : c.DistinctFields := by
  obtain ⟨ancestors, -, -, -, -, hfields, hmodelFields⟩ := classOf_eq_ok h
  constructor
  · intro decls hdecls
    rw [hfields] at hdecls
    unfold fieldsAsData at hdecls
    split at hdecls
    next => exact Option.some.inj hdecls ▸ nodup_mergeFields FieldDecl.name _
    next =>
      obtain ⟨ancestor, hfind, hdecls⟩ := Option.bind_eq_some_iff.mp hdecls
      obtain ⟨ref, -, hancestor⟩ := List.mem_filterMap.mp (List.mem_of_find?_eq_some hfind)
      exact (hregistry ancestor (List.mem_of_find?_eq_some hancestor)).data decls hdecls
  · split at hmodelFields
    next => exact nodup_fieldsAsModel hmodelFields
    next =>
      rw [hmodelFields]
      exact List.nodup_nil

/-! ### Lookups -/

section

variable {scope : Reference.Scope}

theorem lookUp?_eq_ok {type : TypeExpr} {found? : Option TypeExpr}
    (h : lookUp? scope type = .ok found?) :
    (∃ found, found? = some found ∧ Reference.resolve scope type = .ok found) ∨
      (found? = none ∧ ∃ name, Reference.resolve scope type = .error (.unknownName name)) := by
  unfold lookUp? at h
  split at h
  next found hfound => exact .inl ⟨found, (Except.ok.inj h).symm, hfound⟩
  next name hname => exact .inr ⟨(Except.ok.inj h).symm, name, hname⟩
  next => cases h

/-- A declaration becomes a field of a model with its type looked up or kept as it is. -/
theorem declaredField_eq_ok {field : FieldDecl} {model : ModelField}
    (h : declaredField scope field = .ok model) :
    ∃ argument, field.type.asArgument = .ok argument ∧ model.name = field.name ∧
      model.default = field.default ∧ model.LooksUp scope argument := by
  unfold declaredField at h
  obtain ⟨argument, hargument, h⟩ := Outcome.bind_eq_ok h
  obtain ⟨found?, hfound, h⟩ := Outcome.bind_eq_ok h
  refine ⟨argument, Outcome.mapError_eq_ok hargument, ?_⟩
  rcases lookUp?_eq_ok hfound with ⟨found, rfl, hresolve⟩ | ⟨rfl, name, hunknown⟩
  · obtain rfl := Except.ok.inj h
    exact ⟨rfl, rfl, .found rfl hresolve⟩
  · obtain rfl := Except.ok.inj h
    exact ⟨rfl, rfl, .unknown name rfl rfl hunknown⟩

/-- The types that are still to be looked up are looked up in the order of the fields. -/
theorem completeFields?_eq_ok {fields completed : List ModelField}
    (h : completeFields? scope fields = .ok (some completed)) :
    List.Forall₂ (ModelField.CompletesTo scope) fields completed := by
  induction fields generalizing completed with
  | nil =>
    obtain rfl := Option.some.inj (Except.ok.inj h)
    exact .nil
  | cons field rest ih =>
    have hrest (type : TypeExpr) (hstep : (do
        let rest? ← completeFields? scope rest
        return rest?.map ({ field with type, isComplete := true } :: ·) :
          Except ModelFault (Option (List ModelField))) = .ok (some completed)) :
        ∃ more, completed = { field with type, isComplete := true } :: more ∧
          List.Forall₂ (ModelField.CompletesTo scope) rest more := by
      obtain ⟨rest?, hrest, hstep⟩ := Outcome.bind_eq_ok hstep
      obtain ⟨more, rfl, rfl⟩ := Option.map_eq_some_iff.mp (Except.ok.inj hstep)
      exact ⟨more, rfl, ih hrest⟩
    unfold completeFields? at h
    dsimp only at h
    split at h
    next hcomplete =>
      obtain ⟨more, rfl, hmore⟩ := hrest field.type h
      exact .cons ⟨rfl, rfl, rfl, fun _ => rfl,
        fun hincomplete => absurd (hcomplete.symm.trans hincomplete) nofun⟩ hmore
    next hincomplete =>
      obtain ⟨type?, hfound, h⟩ := Outcome.bind_eq_ok h
      rcases lookUp?_eq_ok hfound with ⟨type, rfl, hresolve⟩ | ⟨rfl, -⟩
      · obtain ⟨more, rfl, hmore⟩ := hrest type h
        exact .cons ⟨rfl, rfl, rfl, fun hcomplete => absurd hcomplete hincomplete,
          fun _ => hresolve⟩ hmore
      · cases h

theorem completeFields?_names {fields completed : List ModelField}
    (h : completeFields? scope fields = .ok (some completed)) :
    completed.map (·.name) = fields.map (·.name) := by
  have hnames : ∀ field found, ModelField.CompletesTo scope field found → field.name = found.name :=
    fun _ _ hfield => hfield.name.symm
  exact (Outcome.map_eq_of_forall₂ hnames (completeFields?_eq_ok h)).symm

end

theorem settle_distinctFields {c settled : RecordClass}
    (hc : c.DistinctFields) (h : registry.settle c = .ok settled) : settled.DistinctFields := by
  unfold settle at h
  obtain ⟨fields?, hfields, h⟩ := Outcome.bind_eq_ok h
  cases fields? with
  | none => exact Except.ok.inj h ▸ hc
  | some fields =>
    obtain rfl := Except.ok.inj h
    exact ⟨hc.data, completeFields?_names hfields ▸ hc.model⟩

theorem defineAll_distinctFields {decls : List RecordDecl}
    (hregistry : ∀ c ∈ registry.classes, c.DistinctFields)
    (h : registry.defineAll decls = .ok next) : ∀ c ∈ next.classes, c.DistinctFields := by
  obtain ⟨defined, new, settled, hdefined, hclasses, hsettled, hnext⟩ := defineAll_eq_ok h
  have hall : ∀ c ∈ defined.classes, c.DistinctFields := by
    refine Outcome.foldlM_invariant (P := fun r => ∀ c ∈ r.classes, c.DistinctFields) ?_
      hregistry hdefined
    intro r decl r' hr hstep
    obtain ⟨c, hclass, hclasses⟩ := define_eq_ok hstep
    rw [hclasses, List.forall_mem_append, List.forall_mem_singleton]
    exact ⟨hr, classOf_distinctFields hr hclass⟩
  rw [hclasses, List.forall_mem_append] at hall
  rw [hnext, List.forall_mem_append]
  refine ⟨hregistry, fun c hc => ?_⟩
  obtain ⟨before, hbefore, hsettles⟩ := Outcome.exists_of_mem_right hsettled hc
  exact settle_distinctFields (hall.2 before hbefore) hsettles

/-! ## Places -/

/-- Every record is known by its place in the order of definition. -/
def Indexed (registry : Registry) : Prop :=
  registry.classes.map (·.ref.index) = List.range registry.classes.length

theorem Indexed.eq_of_index (h : registry.Indexed) {c d : RecordClass} (hc : c ∈ registry.classes)
    (hd : d ∈ registry.classes) (hindex : c.ref.index = d.ref.index) : c = d := by
  have hnodup : (registry.classes.map (·.ref.index)).Nodup := by
    rw [h]
    exact List.nodup_range
  exact List.inj_on_of_nodup_map hnodup hc hd hindex

theorem Indexed.define (h : registry.Indexed) {decl : RecordDecl}
    (hdefine : registry.define decl = .ok next) : next.Indexed := by
  obtain ⟨c, hclass, hnext⟩ := define_eq_ok hdefine
  obtain ⟨_, -, href, -⟩ := classOf_eq_ok hclass
  have hindex : c.ref.index = registry.classes.length := by rw [href]
  unfold Indexed
  rw [hnext, List.map_append, h, List.map_singleton, hindex, List.length_append,
    List.length_singleton, List.range_succ]

/-- Nothing but the fields of a model is settled. -/
theorem settle_eq_ok {c settled : RecordClass} (h : registry.settle c = .ok settled) :
    settled = { c with modelFields := settled.modelFields } := by
  unfold settle at h
  obtain ⟨fields?, -, h⟩ := Outcome.bind_eq_ok h
  cases fields? <;> exact Except.ok.inj h ▸ rfl

theorem settle_ref {c settled : RecordClass} (h : registry.settle c = .ok settled) :
    settled.ref = c.ref := by
  rw [settle_eq_ok h]

theorem Indexed.defineAll (h : registry.Indexed) {decls : List RecordDecl}
    (hdefine : registry.defineAll decls = .ok next) : next.Indexed := by
  obtain ⟨defined, new, settled, hdefined, hclasses, hsettled, hnext⟩ := defineAll_eq_ok hdefine
  have hindexed : defined.Indexed := Outcome.foldlM_invariant (P := Indexed)
    (fun _ _ _ hregistry hstep => hregistry.define hstep) h hdefined
  have hrefs : new.map (·.ref) = settled.map (·.ref) :=
    Outcome.map_eq_of_forall₂ (fun c s (h : defined.settle c = .ok s) => (settle_ref h).symm) hsettled
  have hall : next.classes.map (·.ref) = defined.classes.map (·.ref) := by
    rw [hnext, hclasses, List.map_append, List.map_append, hrefs]
  have hlength := congrArg List.length hall
  have hindexes := congrArg (List.map (·.index)) hall
  rw [List.length_map, List.length_map] at hlength
  rw [List.map_map, List.map_map] at hindexes
  unfold Indexed at hindexed ⊢
  rw [hlength, ← hindexed]
  exact hindexes

theorem Before.distinctFields (h : initial.Before registry) :
    ∀ c ∈ registry.classes, c.DistinctFields := by
  induction h with
  | refl =>
    intro c hc
    rcases List.mem_cons.mp hc with rfl | hc
    · exact ⟨nofun, by decide⟩
    · obtain rfl := List.mem_singleton.mp hc
      exact ⟨nofun, by decide⟩
  | tail _ hstep ih =>
    obtain ⟨decls, hdefine⟩ := hstep
    exact defineAll_distinctFields ih hdefine

end Registry
end Schematic
