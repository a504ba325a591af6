import Schematic.Proofs.Record.Building
import Schematic.Proofs.Record.Definition

/-!
What the attributes of a record are that was built.  An instance has a slot for each of its fields,
one under each name, so an attribute is read from the slot of its name: it is the value given for the
field, or else the default that the instance keeps.  Building gives a zero value to the fields that
have neither.

A record of both kinds that is made as a model is the exception.  It is built from the fields that
it has as a data record, and made from those that it has as a model; a value for a field that is none
of the model is dropped.
-/

namespace Schematic

/-- The attribute of a record, if it is set. -/
def Value.attribute? (name : String) : Value → Option Value
  | .record _ slots => (slots.find? (·.1 == name)).bind Prod.snd
  | _ => none

theorem Value.attribute?_of_mem {ref : RecordRef} {slots : List (String × Option Value)}
    (hnames : (slots.map Prod.fst).Nodup) {name : String} {slot : Option Value}
    (h : (name, slot) ∈ slots) : (Value.record ref slots).attribute? name = slot := by
  show (slots.find? (·.1 == name)).bind Prod.snd = slot
  rw [Value.find?_of_nodup hnames h]
  rfl

namespace Registry

/-- A record of both kinds whose instances are made as models. -/
def madeAsModel (registry : Registry) (c : RecordClass) : Bool :=
  c.dataFields.isSome && (registry.maker? c.ancestry).isNone

/-- An instance of a record takes a value for a field. -/
def Takes (registry : Registry) (c : RecordClass) (name : String) : Prop :=
  registry.madeAsModel c = true → name ∈ c.modelFields.map (·.name)

/-- The default that an instance keeps for a field without a value: the one that is declared for it,
as a field of the model where instances are made as models. -/
def keptDefault? (registry : Registry) (c : RecordClass) (f : RecordField) : Option Value :=
  if registry.madeAsModel c then (c.modelFields.find? (·.name == f.name)).bind (·.default)
  else f.default

variable {registry : Registry} {c : RecordClass} {values : List (String × Value)}
  {fields : List RecordField} {x : Value}

/-! ## The slots of an instance -/

theorem find?_modelField (hdistinct : c.DistinctFields) {field : ModelField}
    (hfield : field ∈ c.modelFields) :
    c.modelFields.find? (·.name == field.name) = some field := by
  have hsome : (c.modelFields.find? (·.name == field.name)).isSome = true :=
    List.find?_isSome.mpr ⟨field, hfield, beq_self_eq_true field.name⟩
  obtain ⟨found, hfound⟩ := Option.isSome_iff_exists.mp hsome
  have hname : found.name = field.name := by simpa using List.find?_some hfound
  rw [hfound, List.inj_on_of_nodup_map hdistinct.model (List.mem_of_find?_eq_some hfound) hfield
    hname]

theorem constructModel_attribute? (hdistinct : c.DistinctFields)
    (h : constructModel c values = .ok x) {field : ModelField} (hfield : field ∈ c.modelFields) :
    x.attribute? field.name = (given? values field.name <|> field.default) := by
  obtain rfl := constructModel_eq_ok h
  refine Value.attribute?_of_mem ?_ (List.mem_map.mpr ⟨field, hfield, rfl⟩)
  rw [modelSlots_names]
  exact hdistinct.model

theorem validateModel_attribute? (hdistinct : c.DistinctFields) {decls : List FieldDecl}
    (hdata : c.dataFields = some decls) (h : validateModel c decls values = .ok x)
    {decl : FieldDecl} (hdecl : decl ∈ decls) :
    x.attribute? decl.name = (c.modelFields.find? (·.name == decl.name)).bind fun field =>
      given? values field.name <|> field.default := by
  obtain ⟨-, rfl⟩ := validateModel_eq_ok h
  rw [Value.attribute?_of_mem _ (List.mem_map.mpr ⟨decl, hdecl, rfl⟩), modelSlots,
    List.find?_map, Option.bind_map]
  · rfl
  · rw [List.map_map]
    exact hdistinct.data decls hdata

theorem constructData_attribute? (hdistinct : c.DistinctFields) {maker : RecordClass}
    {decls : List FieldDecl} (hdata : c.dataFields = some decls)
    (h : registry.constructData maker c decls values = .ok x) {decl : FieldDecl}
    (hdecl : decl ∈ decls) (hloaded : decl.loaded = true) :
    x.attribute? decl.name = (given? values decl.name <|> decl.default) := by
  obtain ⟨-, -, slots, hslots, rfl⟩ := constructData_eq_ok h
  obtain ⟨slot, hslot, hattribute⟩ :=
    Outcome.exists_of_mem_left (Outcome.mapM_eq_ok hslots) hdecl
  obtain rfl := dataAttribute_eq_ok hloaded hattribute
  refine Value.attribute?_of_mem ?_ hslot
  rw [dataAttributes_names hslots]
  exact hdistinct.data decls hdata

/-- An attribute is the value given for it, or else the default that the instance keeps; a field for
which the instance takes no value is not set. -/
theorem instantiate_attribute? (hdistinct : c.DistinctFields)
    (hfields : registry.fields c = .ok fields) (h : registry.instantiate c values = .ok x)
    {f : RecordField} (hf : f ∈ fields) :
    (registry.Takes c f.name →
        x.attribute? f.name = (given? values f.name <|> registry.keptDefault? c f)) ∧
      (¬ registry.Takes c f.name → x.attribute? f.name = none) := by
  unfold instantiate at h
  split at h
  next hnone =>
    have hmade : registry.madeAsModel c = false := by rw [madeAsModel, hnone]; rfl
    have htakes : registry.Takes c f.name := fun htrue => by rw [hmade] at htrue; cases htrue
    obtain rfl := fields_of_model hnone hfields
    obtain ⟨field, hfield, rfl⟩ := List.mem_map.mp hf
    refine ⟨fun _ => ?_, fun hnot => absurd htakes hnot⟩
    rw [keptDefault?, hmade]
    exact constructModel_attribute? hdistinct h hfield
  next decls hdata hmaker =>
    have hmade : registry.madeAsModel c = true := by rw [madeAsModel, hdata, hmaker]; rfl
    obtain ⟨decl, hdecl, -, hname, -⟩ := loaded_of_fields hdata hfields hf
    have hattribute := validateModel_attribute? hdistinct hdata h hdecl
    rw [hname] at hattribute
    constructor
    · intro htakes
      obtain ⟨field, hfield, hfname⟩ := List.mem_map.mp (htakes hmade)
      have hfound := find?_modelField hdistinct hfield
      rw [hfname] at hfound
      rw [keptDefault?, hmade, hattribute, hfound, Option.bind_some, if_pos rfl, Option.bind_some,
        hfname]
    · intro hnot
      rw [hattribute, List.find?_eq_none.mpr, Option.bind_none]
      intro field hfield hfname
      refine hnot fun _ => List.mem_map.mpr ⟨field, hfield, by simpa using hfname⟩
  next decls maker hdata hmaker =>
    have hmade : registry.madeAsModel c = false := by rw [madeAsModel, hdata, hmaker]; rfl
    have htakes : registry.Takes c f.name := fun htrue => by rw [hmade] at htrue; cases htrue
    obtain ⟨decl, hdecl, hloaded, hname, hdefault⟩ := loaded_of_fields hdata hfields hf
    refine ⟨fun _ => ?_, fun hnot => absurd htakes hnot⟩
    rw [keptDefault?, hmade, ← hname, ← hdefault]
    exact constructData_attribute? hdistinct hdata h hdecl hloaded

/-- An instance that is made as a model needs a value or a default for each field of the model. -/
theorem isSome_of_madeAsModel (hdistinct : c.DistinctFields) (hmade : registry.madeAsModel c = true)
    (h : registry.instantiate c values = .ok x) {f : RecordField}
    (htakes : registry.Takes c f.name) :
    (given? values f.name <|> registry.keptDefault? c f).isSome = true := by
  obtain ⟨field, hfield, hname⟩ := List.mem_map.mp (htakes hmade)
  have hfound := find?_modelField hdistinct hfield
  rw [keptDefault?, if_pos hmade, ← hname, hfound, Option.bind_some]
  obtain ⟨hdata, hmaker⟩ := Bool.and_eq_true_iff.mp hmade
  obtain ⟨decls, hdecls⟩ := Option.isSome_iff_exists.mp hdata
  rw [instantiate, hdecls, Option.isNone_iff_eq_none.mp hmaker] at h
  exact (validateModel_eq_ok h).1 field hfield

/-! ## Completed values -/

theorem given?_complete_of_not_mem {zero : TypeExpr → Except LoadFault Value}
    {completed : List (String × Value)} (h : Loading.complete zero fields values = .ok completed)
    {name : String} (hname : name ∉ fields.map (·.name)) :
    given? completed name = given? values name := by
  induction fields generalizing values with
  | nil => rw [Except.ok.inj h]
  | cons field rest ih =>
    rw [List.map_cons, List.mem_cons, not_or] at hname
    rw [Loading.complete_cons] at h
    split at h
    next => exact ih h hname.2
    next =>
      obtain ⟨z, -, h⟩ := Outcome.bind_eq_ok h
      rw [ih h hname.2, given?, given?, List.find?_append,
        List.find?_singleton, if_neg (by simpa using Ne.symm hname.1), Option.or_none]

/-- A field without a value is completed by the zero value of its type, unless it has a default. -/
theorem given?_complete_of_none {zero : TypeExpr → Except LoadFault Value}
    {completed : List (String × Value)} (h : Loading.complete zero fields values = .ok completed)
    (hnames : (fields.map (·.name)).Nodup) {f : RecordField} (hf : f ∈ fields)
    (hnone : given? values f.name = none) :
    (f.default = none → ∃ z, zero f.hint = .ok z ∧ given? completed f.name = some z) ∧
      (f.default ≠ none → given? completed f.name = none) := by
  have habsent {values : List (String × Value)} {name : String} (h : given? values name = none) :
      values.any (·.1 == name) = false := by
    rw [← List.isSome_find?, Option.map_eq_none_iff.mp h]
    rfl
  induction fields generalizing values with
  | nil => cases hf
  | cons field rest ih =>
    obtain ⟨hfirst, hrest⟩ := List.nodup_cons.mp hnames
    rw [Loading.complete_cons] at h
    rcases List.mem_cons.mp hf with rfl | hmem
    · rw [habsent hnone, Bool.false_or] at h
      split at h
      next hsome =>
        refine ⟨fun hdefault => ?_, fun _ => ?_⟩
        · rw [hdefault] at hsome
          cases hsome
        · rw [given?_complete_of_not_mem h hfirst, hnone]
      next hsome =>
        obtain ⟨z, hz, h⟩ := Outcome.bind_eq_ok h
        refine ⟨fun _ => ⟨z, hz, ?_⟩, fun hdefault => ?_⟩
        · rw [given?_complete_of_not_mem h hfirst, given?, List.find?_append,
            Option.map_eq_none_iff.mp hnone]
          simp
        · exact absurd (Option.isSome_iff_ne_none.mpr hdefault) hsome
    · have hne : field.name ≠ f.name := by
        intro heq
        exact hfirst (List.mem_map.mpr ⟨f, hmem, heq.symm⟩)
      split at h
      next => exact ih h hrest hmem hnone
      next =>
        obtain ⟨z, -, h⟩ := Outcome.bind_eq_ok h
        refine ih h hrest hmem ?_
        rw [given?, List.find?_append, Option.map_eq_none_iff.mp hnone]
        simpa using hne

/-- An attribute of a record that was built from values: the value for its field, the default that
the instance keeps if one is declared, or else the zero value of its type. -/
theorem build_attribute? (hdistinct : c.DistinctFields) (hfields : registry.fields c = .ok fields)
    (hnames : (fields.map (·.name)).Nodup) (h : registry.build c values = .ok x) {f : RecordField}
    (hf : f ∈ fields) :
    (registry.Takes c f.name →
        (∀ v, given? values f.name = some v → x.attribute? f.name = some v) ∧
        (given? values f.name = none → f.default ≠ none →
          ∃ v, registry.keptDefault? c f = some v ∧ x.attribute? f.name = some v) ∧
        (given? values f.name = none → f.default = none →
          ∃ z, registry.zeroValue f.hint = .ok z ∧ x.attribute? f.name = some z)) ∧
      (¬ registry.Takes c f.name → x.attribute? f.name = none) := by
  obtain ⟨listed, completed, hlisted, hcompleted, h⟩ := build_eq_ok h
  obtain rfl := Except.ok.inj (hfields.symm.trans hlisted)
  obtain ⟨htaken, hnot⟩ := instantiate_attribute? hdistinct hfields h hf
  refine ⟨fun htakes => ⟨fun v hv => ?_, fun hnone hdefault => ?_, fun hnone hdefault => ?_⟩, hnot⟩
  · rw [htaken htakes, Loading.given?_complete hcompleted hv]
    rfl
  · have habsent := (given?_complete_of_none hcompleted hnames hf hnone).2 hdefault
    have hsome : (registry.keptDefault? c f).isSome = true := by
      cases hmade : registry.madeAsModel c with
      | true => simpa [habsent] using isSome_of_madeAsModel hdistinct hmade h htakes
      | false => rw [keptDefault?, hmade]; exact Option.isSome_iff_ne_none.mpr hdefault
    obtain ⟨v, hv⟩ := Option.isSome_iff_exists.mp hsome
    refine ⟨v, hv, ?_⟩
    rw [htaken htakes, habsent, hv]
    rfl
  · obtain ⟨z, hz, hgiven⟩ := (given?_complete_of_none hcompleted hnames hf hnone).1 hdefault
    refine ⟨z, hz, ?_⟩
    rw [htaken htakes, hgiven]
    rfl

end Registry
end Schematic
