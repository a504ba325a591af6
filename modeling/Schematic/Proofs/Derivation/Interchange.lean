import Schematic.Proofs.Derivation.Describes
import Schematic.Proofs.Record.Correspondence

/-!
What derivation and loading see of a data record, and of the model in its place: fields of the same
names and tags in the same order, with types that are the same over models once the extras of the type
are put aside, which a model does not keep.  The types of a data record are those of the nearest
declarations, while a field can come from another declaration where an ancestor that is nearer inherits
it; `TypesAreNearest` says that the two agree.

The schemas are then the same, and so are the failures.
-/

namespace Schematic

open Outcome (exists_of_mem_left)

variable {known : RecordRef → Prop}

/-! ## Fields as they are seen -/

/-- A type and the one in its place, the same over models but for its extras. -/
structure TypeExpr.SeenAs (known : RecordRef → Prop) (type type' : TypeExpr) : Prop where
  isOver : type.Over known
  base : type'.base = type.base.withModels

/-- A field of a record and that of the model in its place. -/
structure RecordField.SeenAs (known : RecordRef → Prop) (field field' : RecordField) : Prop where
  name : field'.name = field.name
  hint : field.hint.SeenAs known field'.hint
  tag : field'.tag = field.tag
  default : field'.default.isSome = field.default.isSome

theorem TypeExpr.seenAs_withModels {type : TypeExpr} (h : type.Over known) :
    type.SeenAs known type.withModels :=
  ⟨h, type.base_withModels⟩

namespace Registry

variable {registry models : Registry} {c model : RecordClass}

def declarations (registry : Registry) (c : RecordClass) : List FieldDecl :=
  (registry.findAll c.ancestry.reverse).flatMap (·.own)

/-- The declaration of a name that is nearest to a record. -/
def nearest? (registry : Registry) (c : RecordClass) (name : String) : Option FieldDecl :=
  (registry.declarations c).reverse.find? (·.name == name)

/-- The fields of a data record have the types of the nearest declarations. -/
def TypesAreNearest (registry : Registry) (c : RecordClass) : Prop :=
  ∀ fields, c.dataFields = some fields → ∀ field ∈ fields,
    (registry.nearest? c field.name).map (·.type) = some field.type

theorem dataHints_eq_ok (h : ∀ ancestor ∈ registry.findAll c.ancestry.reverse,
    ∀ field ∈ ancestor.own, ∃ model, field.IsModelled known model) :
    ∃ hints, registry.dataHints c = .ok hints ∧ ∀ name field, registry.nearest? c name = some field →
      ∃ hint, (hints.find? (·.1 == name)).map Prod.snd = some hint ∧
        field.type.settledHint = .ok hint := by
  have hlookup : ∀ ancestor ∈ registry.findAll c.ancestry.reverse, ∃ hints,
      registry.ownHints ancestor = .ok hints := by
    intro ancestor hancestor
    refine Outcome.exists_mapM_eq_ok_iff.mpr fun field hfield => ?_
    obtain ⟨model, hmodel⟩ := h ancestor hancestor field hfield
    obtain ⟨hint, hhint, -⟩ := hmodel.type
    refine ⟨(field.name, hint), ?_⟩
    rw [TypeExpr.hintOf_of_settled _ hmodel.common.settled, hhint]
    rfl
  obtain ⟨hints, hhints⟩ := Outcome.exists_mapM_eq_ok_iff.mpr hlookup
  have hown : List.Forall₂ (fun field (p : String × TypeExpr) =>
      field.name = p.1 ∧ field.type.settledHint = .ok p.2) (registry.declarations c) hints.flatten := by
    rw [declarations, List.flatMap_def]
    refine List.rel_flatten ?_
    rw [List.forall₂_map_left_iff]
    have hall := (List.forall₂_and_left _ _).mpr ⟨h, Outcome.mapM_eq_ok hhints⟩
    refine hall.imp fun ancestor found hfound => ?_
    have heach := (List.forall₂_and_left _ _).mpr ⟨hfound.1, Outcome.mapM_eq_ok hfound.2⟩
    refine heach.imp fun field p hp => ?_
    obtain ⟨⟨model, hmodel⟩, hp⟩ := hp
    rw [TypeExpr.hintOf_of_settled _ hmodel.common.settled] at hp
    obtain ⟨hint, hhint, hp⟩ := Outcome.bind_eq_ok hp
    obtain rfl := Except.ok.inj hp
    exact ⟨rfl, Outcome.mapError_eq_ok hhint⟩
  refine ⟨hints.flatten.foldl (fun found p => Value.putMember p.1 p.2 found) [], ?_,
    fun name field hnearest => ?_⟩
  · rw [dataHints, hhints]
    rfl
  · have hfind := Value.find?_putMembers name hints.flatten []
    rcases Outcome.find?_related (p := fun field : FieldDecl => field.name == name)
      (q := fun p => p.1 == name) (fun field p hp => by rw [hp.1]) (List.rel_reverse hown) with
      ⟨hnone, -⟩ | ⟨found, p, hfound, hp, -, hhint⟩
    · rw [nearest?, hnone] at hnearest
      cases hnearest
    · obtain rfl := Option.some.inj (hfound.symm.trans hnearest)
      refine ⟨p.2, ?_, hhint⟩
      rw [hp] at hfind
      exact congrArg (Option.map Prod.snd) hfind

theorem joinTags_empty (tag : String) : joinTags ["", tag] = tag := by
  by_cases h : tag = ""
  · subst h
    rfl
  · simp [joinTags, h]

namespace Corresponds

theorem isModelled_of_findAll (h : registry.Corresponds known models) {refs : List RecordRef}
    (hrefs : ∀ ref ∈ refs, ref = .root ∨ registry.Declares ref) {ancestor : RecordClass}
    (hancestor : ancestor ∈ registry.findAll refs) : ∃ model, ancestor.IsModelled known model := by
  obtain ⟨model, -, hmodelled⟩ := exists_of_mem_left (h.findAll hrefs) hancestor
  exact ⟨model, hmodelled⟩

theorem fields_declared (h : registry.Corresponds known models) (hc : c ∈ registry.classes)
    (hmodelled : c.IsModelled known model) (hnearest : registry.TypesAreNearest c) :
    ∃ fields fields', registry.fields c = .ok fields ∧ models.fields model = .ok fields' ∧
      List.Forall₂ (RecordField.SeenAs known) fields fields' := by
  have hancestors : ∀ ref ∈ c.ancestry.reverse, ref = .root ∨ registry.Declares ref :=
    fun ref href => h.ancestors c hc hmodelled.module ref (List.mem_reverse.mp href)
  have hdeclared : ∀ ancestor ∈ registry.findAll c.ancestry.reverse, ∀ field ∈ ancestor.own,
      ∃ model, field.IsModelled known model := by
    intro ancestor hancestor
    obtain ⟨_, hmodelled⟩ := h.isModelled_of_findAll hancestors hancestor
    exact hmodelled.own
  obtain ⟨hints, hhints, hfound⟩ := dataHints_eq_ok hdeclared
  obtain ⟨decls, hdecls, hrelated⟩ := hmodelled.fields
  have hloaded : decls.filter (·.loaded) = decls := by
    rw [List.filter_eq_self]
    intro decl hdecl
    obtain ⟨_, -, hfield⟩ := exists_of_mem_left hrelated hdecl
    exact hfield.common.loaded
  refine ⟨decls.map fun decl => dataField decl
    (((hints.find? (·.1 == decl.name)).map Prod.snd).getD (.named .any)),
    model.modelFields.map modelField, ?_, ?_, ?_⟩
  · unfold Registry.fields
    rw [hdecls, hhints]
    show Except.ok (List.map _ (decls.filter (·.loaded))) = _
    rw [hloaded]
  · unfold Registry.fields
    rw [hmodelled.noData]
  · rw [List.forall₂_map_left_iff, List.forall₂_map_right_iff]
    refine ((List.forall₂_and_left _ _).mpr ⟨hnearest decls hdecls, hrelated⟩).imp
      fun decl field hfield => ?_
    obtain ⟨htype, hfield⟩ := hfield
    -- The type of the field is looked up at the nearest declaration, the rest of it here.
    obtain ⟨nearest, hnear, htype⟩ := Option.map_eq_some_iff.mp htype
    obtain ⟨hint, hhint, hsettled⟩ := hfound decl.name nearest hnear
    obtain ⟨hint', hsettled', hmodel⟩ := hfield.type
    rw [htype] at hsettled
    obtain rfl := Except.ok.inj (hsettled'.symm.trans hsettled)
    rw [hhint]
    refine ⟨hfield.name, ⟨hmodel.isOver, ?_⟩, ?_, ?_⟩
    · show field.type.base.base = hint'.base.withModels
      rw [TypeExpr.base_base, hmodel.eq, TypeExpr.base_withModels]
    · show TypeExpr.tagText field.type.extras = joinTags [decl.tag, TypeExpr.tagText hint'.extras]
      rw [hfield.common.tag, joinTags_empty, hmodel.eq, TypeExpr.extras_withModels]
    · show field.default.isSome = decl.default.isSome
      rw [hfield.default, Option.isSome_map]

theorem fields_library (hlibrary : c ∈ initial.classes) (hknown : known schemaRef ∧ known fieldRef) :
    ∃ fields, registry.fields c = .ok fields ∧ models.fields c = .ok fields ∧
      List.Forall₂ (RecordField.SeenAs known) fields fields := by
  have hdata := (RecordClass.forall_library (P := fun c => c.dataFields = none)).mpr ⟨rfl, rfl⟩ c hlibrary
  have hschema : ∀ field ∈ schemaFields, field.type.SeenAs known field.type := by
    unfold schemaFields
    simp only [List.forall_mem_cons]
    refine ⟨⟨List.forall_mem_nil _, rfl⟩, ⟨List.forall_mem_nil _, rfl⟩, ⟨?_, rfl⟩, ⟨?_, rfl⟩,
      List.forall_mem_nil _⟩
    · exact List.forall_mem_singleton.mpr hknown.2
    · exact List.forall_mem_singleton.mpr hknown.1
  have hfields : ∀ field ∈ fieldFields, field.type.SeenAs known field.type := by
    unfold fieldFields
    simp only [List.forall_mem_cons]
    exact ⟨⟨List.forall_mem_nil _, rfl⟩, ⟨List.forall_mem_nil _, rfl⟩, ⟨List.forall_mem_nil _, rfl⟩,
      List.forall_mem_nil _⟩
  have hall := (RecordClass.forall_library
    (P := fun c => ∀ field ∈ c.modelFields, field.type.SeenAs known field.type)).mpr
      ⟨hschema, List.forall_mem_append.mpr ⟨hschema, hfields⟩⟩ c hlibrary
  refine ⟨c.modelFields.map modelField, ?_, ?_, ?_⟩
  · unfold Registry.fields
    rw [hdata]
  · unfold Registry.fields
    rw [hdata]
  · rw [List.forall₂_map_left_iff, List.forall₂_map_right_iff, List.forall₂_same]
    intro field hfield
    obtain ⟨hover, hbase⟩ := hall field hfield
    refine ⟨rfl, ⟨TypeExpr.over_base.mpr hover, ?_⟩, rfl, rfl⟩
    show field.type.base.base = field.type.base.base.withModels
    rw [TypeExpr.base_base]
    exact hbase

end Corresponds

def Holds (registry : Registry) (ref : RecordRef) : Prop :=
  ∃ c ∈ registry.classes, c.ref = ref

theorem Indexed.modelsApart (h : registry.Indexed) : ModelsApart registry.Holds := by
  rintro _ _ ⟨c, hc, rfl⟩ ⟨d, hd, rfl⟩ heq
  rw [h.eq_of_asModel hc hd heq]

/-- A registry of data records, and one with models in their places, with fields that are seen
alike. -/
structure SeenAs (registry models : Registry) : Prop where
  corresponds : registry.Corresponds registry.Holds models
  library : initial.classes ⊆ registry.classes
  nearest : ∀ c ∈ registry.classes, registry.TypesAreNearest c

namespace SeenAs

theorem fields (h : registry.SeenAs models) (hc : c ∈ registry.classes)
    (hmodel : c.Corresponds registry.Holds model) :
    ∃ fields fields', registry.fields c = .ok fields ∧ models.fields model = .ok fields' ∧
      List.Forall₂ (RecordField.SeenAs registry.Holds) fields fields' := by
  cases hmodel with
  | library hlibrary =>
    have hholds : registry.Holds schemaRef ∧ registry.Holds fieldRef :=
      (RecordClass.forall_library (P := fun c => registry.Holds c.ref)).mp
        fun c hc => ⟨c, h.library hc, rfl⟩
    obtain ⟨fields, hfields, hfields', hseen⟩ := Corresponds.fields_library hlibrary hholds
    exact ⟨fields, fields, hfields, hfields', hseen⟩
  | declared hmodelled => exact h.corresponds.fields_declared hc hmodelled (h.nearest c hc)

theorem find? (h : registry.SeenAs models) {ref : RecordRef} (href : registry.Holds ref) :
    ∃ c model fields fields', registry.find? ref = some c ∧ models.find? ref.asModel = some model ∧
      c ∈ registry.classes ∧ c.Corresponds registry.Holds model ∧ registry.fields c = .ok fields ∧
      models.fields model = .ok fields' ∧
      List.Forall₂ (RecordField.SeenAs registry.Holds) fields fields' := by
  obtain ⟨c, hc, rfl⟩ := href
  obtain ⟨model, hmodel, hcorresponds⟩ := h.corresponds.find?_asModel hc
  obtain ⟨fields, fields', hfields, hfields', hseen⟩ := h.fields hc hcorresponds
  exact ⟨c, model, fields, fields', h.corresponds.find?_of_mem hc, hmodel, hc, hcorresponds, hfields,
    hfields', hseen⟩

theorem mem_map_asModel_iff (h : registry.SeenAs models) {seen : List RecordRef}
    (hseen : ∀ ref ∈ seen, registry.Holds ref) {ref : RecordRef} (href : registry.Holds ref) :
    ref.asModel ∈ seen.map RecordRef.asModel ↔ ref ∈ seen := by
  rw [List.mem_map]
  constructor
  · rintro ⟨other, hother, heq⟩
    rwa [← h.corresponds.indexed.modelsApart other ref (hseen other hother) href heq]
  · exact fun hmem => ⟨ref, hmem, rfl⟩

end SeenAs
end Registry

/-! ## Derivation -/

namespace Derivation

variable {registry models : Registry} {onRecord onRecord' : RecordRef → Except Underivable Schema}

theorem ofType_base (onRecord : RecordRef → Except Underivable Schema) :
    ∀ type : TypeExpr, ofType onRecord type.base = ofType onRecord type
  | .annotated base _ => ofType_base onRecord base
  | .scalar _ | .openArray _ | .array _ _ | .mapping _ _ | .record _ | .named _ | .generic _ _
  | .union _ _ | .literal _ | .value _ | .reference _ | .ellipsis => rfl

theorem ofType_withModels (hrecord : ∀ ref, known ref → onRecord' ref.asModel = onRecord ref) :
    ∀ type : TypeExpr, type.Over known → ofType onRecord' type.withModels = ofType onRecord type
  | .scalar _, _ | .openArray _, _ | .mapping _ _, _ => rfl
  | .record ref, h => hrecord ref (TypeExpr.over_record.mp h)
  | .array _ element, h =>
    congrArg (Except.map Schema.arrayOf) (ofType_withModels hrecord element (TypeExpr.over_array.mp h))
  | .annotated base _, h => ofType_withModels hrecord base (TypeExpr.over_annotated.mp h)
  | .named _, _ | .generic _ _, _ | .union _ _, _ | .literal _, _ | .value _, _ | .reference _, _
  | .ellipsis, _ => congrArg Except.error (TypeExpr.unsupported_withModels _)

theorem ofType_seen (hrecord : ∀ ref, known ref → onRecord' ref.asModel = onRecord ref)
    {type type' : TypeExpr} (h : type.SeenAs known type') :
    ofType onRecord' type' = ofType onRecord type := by
  rw [← ofType_base, h.base, ofType_withModels hrecord _ (TypeExpr.over_base.mpr h.isOver),
    ofType_base]

theorem ofFields_seen [Text.Repertoire] {derive derive' : TypeExpr → Except Underivable Schema}
    (hderive : ∀ type type', type.SeenAs known type' → derive' type' = derive type)
    {fields fields' : List RecordField}
    (h : List.Forall₂ (RecordField.SeenAs known) fields fields') :
    ofFields derive' fields' = ofFields derive fields := by
  induction h with
  | nil => rfl
  | @cons field field' rest rest' hfield _ ih =>
    have hmember : ofField derive' field' = ofField derive field := by
      unfold ofField
      rw [hfield.name, hfield.tag, hderive _ _ hfield.hint]
    rw [ofFields, ofFields, hmember, ih]

/-- A model has the schema of the record in whose place it is, or fails as that does. -/
theorem ofRecord_models [Text.Repertoire] (h : registry.SeenAs models) {seen : List RecordRef}
    {ref : RecordRef} (hseen : ∀ ref ∈ seen, registry.Holds ref) (href : registry.Holds ref) :
    ofRecord models (seen.map RecordRef.asModel) ref.asModel = ofRecord registry seen ref := by
  -- The models of the records that are seen are seen on the other side, so that both sides stop at
  -- the same place.
  fun_induction ofRecord registry seen ref with
  | case1 seen ref hmem =>
    rw [ofRecord, dif_pos ((h.mem_map_asModel_iff hseen href).mpr hmem), RecordRef.asModel_name]
  | case2 seen ref hmem hnone =>
    obtain ⟨c, _, _, _, hfind, -⟩ := h.find? href
    rw [hfind] at hnone
    cases hnone
  | case3 seen ref hmem c hfind e hfails =>
    obtain ⟨c', _, fields, _, hfind', -, -, -, hfields, -⟩ := h.find? href
    obtain rfl := Option.some.inj (hfind.symm.trans hfind')
    rw [hfields] at hfails
    cases hfails
  | case4 seen ref hmem c hfind fields hfields ih =>
    obtain ⟨c', model, _, fields', hfind', hmodel, -, -, hsame, hfields', hrelated⟩ := h.find? href
    obtain ⟨rfl, rfl⟩ := Registry.listed_unique hfind hfields hfind' hsame
    have hinner : ∀ type type', type.SeenAs registry.Holds type' →
        ofType (ofRecord models (ref.asModel :: seen.map RecordRef.asModel)) type' =
          ofType (ofRecord registry (ref :: seen)) type :=
      fun type type' htype => ofType_seen
        (fun inner hholds => ih inner (List.forall_mem_cons.mpr ⟨href, hseen⟩) hholds) htype
    rw [ofRecord_eq (fun hin => hmem ((h.mem_map_asModel_iff hseen href).mp hin)) hmodel hfields',
      ofFields_seen hinner hrelated]
    rfl

end Derivation

/-- A type over models has the schema of the type over the records, or fails as that does. -/
theorem Registry.SeenAs.derive [Text.Repertoire] {registry models : Registry}
    (h : registry.SeenAs models) {type : TypeExpr} (htype : type.Over registry.Holds) :
    models.derive type.withModels = registry.derive type := by
  have hrecord : ∀ ref, registry.Holds ref →
      Derivation.ofRecord models [] ref.asModel = Derivation.ofRecord registry [] ref :=
    fun ref href => Derivation.ofRecord_models h (List.forall_mem_nil _) href
  rw [Registry.derive, Registry.derive, Derivation.ofType_withModels hrecord type htype,
    TypeExpr.unset?_withModels]

end Schematic
