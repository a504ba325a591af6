import Schematic.Proofs.Loading.Conformance

/-!
Soundness of loading.  A value that the schema of a type accepts is loaded as a value that conforms
to the type, or it holds an integer beyond the range of floats, or a record of the type cannot be
built.  The last does not happen to types whose records are constructible, and it does happen to
every other type or to a type inside it.
-/

namespace Schematic
namespace Registry

variable {registry : Registry}

/-- Loading notes nothing, and comes to a value of the type unless an integer is too large. -/
structure Sound (registry : Registry) (schema : Schema) (value : Value) (type : TypeExpr) :
    Prop where
  events : (schema.load registry value type).events = []
  result : (schema.load registry value type).result = .error .intTooLarge ∨
    ∃ x, (schema.load registry value type).result = .ok x ∧
      registry.Conforms type (some value) x

/-- What holds of loading an accepted value into any type with a schema: nothing is noted, and only
an integer or a record stops it; it is sound if the records of the type are constructible. -/
structure Guarded [Text.Repertoire] (registry : Registry) (schema : Schema) (value : Value)
    (type : TypeExpr) :
    Prop where
  events : (schema.load registry value type).events = []
  fault : ∀ fault, (schema.load registry value type).result = .error fault →
    fault = .intTooLarge ∨ ∃ e, fault = .instanceFault e
  result : registry.Constructible type →
    (schema.load registry value type).result = .error .intTooLarge ∨
      ∃ x, (schema.load registry value type).result = .ok x ∧
        registry.Conforms type (some value) x

section Sound

variable {schema : Schema} {value x : Value} {type : TypeExpr} {fault : LoadFault}

theorem Sound.eq_of_error (h : registry.Sound schema value type)
    (herror : (schema.load registry value type).result = .error fault) :
    fault = .intTooLarge := by
  rcases h.result with hlarge | ⟨x, hx, -⟩
  · exact Except.error.inj (herror.symm.trans hlarge)
  · rw [hx] at herror
    cases herror

theorem Sound.conforms (h : registry.Sound schema value type)
    (hload : (schema.load registry value type).result = .ok x) :
    registry.Conforms type (some value) x := by
  rcases h.result with hlarge | ⟨y, hy, hconforms⟩
  · rw [hlarge] at hload
    cases hload
  · obtain rfl := Except.ok.inj (hload.symm.trans hy)
    exact hconforms

theorem Guarded.sound [Text.Repertoire] (h : registry.Guarded schema value type)
    (hconstructible : registry.Constructible type) : registry.Sound schema value type :=
  ⟨h.events, h.result hconstructible⟩

end Sound

theorem guarded_of_pure [Text.Repertoire] {schema : Schema} {value x : Value} {type : TypeExpr}
    (hload : schema.load registry value type = pure x)
    (hconforms : registry.Conforms type (some value) x) :
    registry.Guarded schema value type := by
  refine ⟨?_, ?_, fun _ => .inr ⟨x, ?_, hconforms⟩⟩
  · rw [hload]
    rfl
  · intro fault hfault
    rw [hload] at hfault
    cases hfault
  · rw [hload]
    rfl

/-! ## Scalars -/

theorem conforms_of_loads {s : Scalar} {value x : Value} (h : s.kind.Loads value x)
    (input : Option Value) : registry.Conforms (.scalar s) input x := by
  cases s with
  | bool => cases h with | boolean b => exact .bool b
  | str => cases h with | string text => exact .str text
  | int =>
    cases h with
    | integer i => exact .int i
    | wholeFloat => exact .int _
  | float =>
    cases h with
    | number x => exact .float x
    | widened => exact .float _
  | datetime =>
    cases h with
    | datetime d => exact .datetime d
    | timestamp => exact .datetime _

theorem guarded_scalar [Text.Repertoire] (s : Scalar) {value : Value}
    (haccepts : (Schema.ofKind s.kind).Accepts value) :
    registry.Guarded (.ofKind s.kind) value (.scalar s) := by
  have hobject : (Schema.ofKind s.kind).kind ≠ .object := by cases s <;> exact Kind.noConfusion
  have harray : (Schema.ofKind s.kind).kind ≠ .array := by cases s <;> exact Kind.noConfusion
  rcases Schema.load_scalar registry (.scalar s) hobject harray haccepts.holds with
    ⟨x, hloads, hload⟩ | ⟨-, i, rfl, -, hload⟩
  · exact guarded_of_pure hload (conforms_of_loads hloads _)
  · refine ⟨by rw [hload]; rfl, ?_, fun _ => .inl (by rw [hload]; rfl)⟩
    intro fault hfault
    rw [hload] at hfault
    exact .inl (Except.error.inj hfault).symm

/-! ## Arrays and mappings -/

theorem guarded_openArray [Text.Repertoire] (form : ArrayForm) {value : Value}
    (haccepts : (Schema.ofKind .array).Accepts value) :
    registry.Guarded (.ofKind .array) value (.openArray form) := by
  obtain ⟨items, hitems⟩ := Kind.Holds.items haccepts.holds
  refine guarded_of_pure (x := .list items) ?_ (.openArray fun value' hvalue => ?_)
  · rw [Schema.load_array rfl hitems]
    rfl
  · exact Option.some.inj hvalue ▸ hitems

theorem guarded_mapping [Text.Repertoire] (form : MappingForm) (arguments : List TypeExpr)
    {value : Value} (haccepts : (Schema.ofKind .object).Accepts value) :
    registry.Guarded (.ofKind .object) value (.mapping form arguments) := by
  obtain ⟨entries, hentries⟩ := Kind.Holds.entries haccepts.holds
  exact guarded_of_pure (Schema.load_mapping rfl hentries rfl) (.mapping entries)

theorem guarded_array [Text.Repertoire] {form : ArrayForm} {element : TypeExpr} {schema : Schema}
    {value : Value} (haccepts : (Schema.arrayOf schema).Accepts value)
    (ih : ∀ item, schema.Accepts item → registry.Guarded schema item element) :
    registry.Guarded (.arrayOf schema) value (.array form element) := by
  obtain ⟨items, hitems⟩ := Kind.Holds.items haccepts.holds
  have hall : ∀ item ∈ items, registry.Guarded schema item element := fun item hitem =>
    ih item ((Schema.accepts_array_iff rfl hitems).mp haccepts schema rfl item hitem)
  have hload : (Schema.arrayOf schema).load registry value (.array form element) =
      Noted.forEach (fun item => schema.load registry item element) items >>= fun loaded =>
        pure (.list loaded) := Schema.load_array rfl hitems
  have hresult : ((Schema.arrayOf schema).load registry value (.array form element)).result =
      (items.mapM fun item => (schema.load registry item element).result) >>= fun loaded =>
        .ok (.list loaded) := by
    rw [hload, Noted.result_bind, Noted.forEach_result]
    rfl
  refine ⟨?_, ?_, ?_⟩
  · rw [hload]
    exact Noted.events_bind (Noted.forEach_events fun item hitem => (hall item hitem).events)
      fun _ _ => rfl
  · intro fault hfault
    rw [hresult] at hfault
    rcases Outcome.bind_eq_error hfault with herror | ⟨loaded, -, hdone⟩
    · obtain ⟨item, hitem, herror⟩ := Outcome.mapM_eq_error herror
      exact (hall item hitem).fault fault herror
    · cases hdone
  · intro hconstructible
    have helement : registry.Constructible element := hconstructible.inner (.element form element)
    rw [hresult]
    cases hmap : items.mapM fun item => (schema.load registry item element).result with
    | error fault =>
      obtain ⟨item, hitem, herror⟩ := Outcome.mapM_eq_error hmap
      exact .inl (congrArg Except.error (((hall item hitem).sound helement).eq_of_error herror))
    | ok loaded =>
      have hforall := Outcome.mapM_eq_ok hmap
      refine .inr ⟨_, rfl, .array (fun k => items[k]?) ?_ ?_⟩
      · intro value' hvalue
        obtain rfl := Option.some.inj hvalue
        exact ⟨items, hitems, hforall.length_eq, fun _ => rfl⟩
      · intro k x hx
        obtain ⟨hk, rfl⟩ := List.getElem?_eq_some_iff.mp hx
        have hk' : k < items.length := hforall.length_eq ▸ hk
        have hitem : (schema.load registry items[k] element).result = .ok loaded[k] :=
          hforall.get hk' hk
        rw [List.getElem?_eq_getElem hk']
        exact ((hall _ (List.getElem_mem hk')).sound helement).conforms hitem

/-! ## Annotated types -/

theorem load_annotated (schema : Schema) (value : Value) (base : TypeExpr) (extras : List Extra) :
    schema.load registry value (.annotated base extras) = schema.load registry value base := by
  obtain ⟨kind, description, fields, elements⟩ := schema
  cases kind <;> rfl

theorem guarded_annotated [Text.Repertoire] {schema : Schema} {value : Value} {base : TypeExpr}
    (extras : List Extra) (h : registry.Guarded schema value base) :
    registry.Guarded schema value (.annotated base extras) := by
  refine ⟨?_, ?_, fun hconstructible => ?_⟩
  · rw [load_annotated]
    exact h.events
  · rw [load_annotated]
    exact h.fault
  · rw [load_annotated]
    rcases h.result (hconstructible.inner (.base base extras)) with hlarge | ⟨x, hx, hconforms⟩
    · exact .inl hlarge
    · exact .inr ⟨x, hx, .annotated hconforms⟩

/-! ## Records -/

section Record

variable {ref : RecordRef} {c : RecordClass} {fields : List RecordField}
  {schemaOf : RecordField → Schema} {memberOf : RecordField → Field}

theorem guarded_record [Text.Repertoire]
    (h : registry.DescribedRecord ref c fields schemaOf memberOf) {value : Value}
    (haccepts : (recordSchema fields memberOf).Accepts value)
    (ih : ∀ f ∈ fields, ∀ value, (schemaOf f).Accepts value →
      registry.Guarded (schemaOf f) value f.hint) :
    registry.Guarded (recordSchema fields memberOf) value (.record ref) := by
  obtain ⟨entries, hentries⟩ := Kind.Holds.entries haccepts.holds
  have hkind : (recordSchema fields memberOf).kind = .object := rfl
  -- every input is guarded, by the schema of its field
  have hinputs : ∀ i ∈ (recordSchema fields memberOf).inputs entries fields,
      registry.Guarded (schemaOf i.field) i.value i.field.hint := by
    intro i hi
    obtain ⟨hmem, hschema⟩ := h.schema_of_input hi
    have haccepted := (Schema.accepts_input h.describes.wellFormed haccepts hkind hentries hi).2
    rw [hschema, h.shape hmem, Schema.accepts_describe_iff] at haccepted
    exact ih _ hmem _ haccepted
  obtain ⟨hload, hevents⟩ := h.load_eq hentries
  refine ⟨?_, ?_, ?_⟩
  · refine hevents fun i hi => ?_
    rw [h.load_input hi]
    exact (hinputs i hi).events
  · intro fault hfault
    rw [hload] at hfault
    rcases Outcome.bind_eq_error hfault with herror | ⟨values, -, hbuild⟩
    · obtain ⟨i, hi, herror⟩ := Outcome.mapM_eq_error herror
      rw [h.load_input hi] at herror
      rcases Outcome.bind_eq_error herror with herror | ⟨x, -, hdone⟩
      · exact (hinputs i hi).fault fault herror
      · cases hdone
    · exact .inr (h.describes.build_eq_error h.find hbuild)
  · intro hconstructible
    have hsound : ∀ i ∈ (recordSchema fields memberOf).inputs entries fields,
        registry.Sound (schemaOf i.field) i.value i.field.hint := fun i hi =>
      (hinputs i hi).sound
        (hconstructible.inner (.hint h.find h.listed (h.schema_of_input hi).1))
    rw [hload]
    cases hvalues : (recordSchema fields memberOf).loadInputs registry entries fields with
    | error fault =>
      obtain ⟨i, hi, herror⟩ := Outcome.mapM_eq_error hvalues
      rw [h.load_input hi] at herror
      rcases Outcome.bind_eq_error herror with herror | ⟨x, -, hdone⟩
      · exact .inl (congrArg Except.error ((hsound i hi).eq_of_error herror))
      · cases hdone
    | ok values =>
      have hselects : (recordSchema fields memberOf).Selects fields fun f =>
          ((recordSchema fields memberOf).input? entries f).isSome :=
        Schema.selects_inputs haccepts hkind hentries
      have hwhole := hconstructible ref c fields _ .refl h.find h.listed h.describes _ hselects
      rw [← loaded_names hvalues] at hwhole
      refine .inr (conforms_of_build h hentries hvalues hwhole fun i hi x hx => ?_)
      rw [h.load_input hi] at hx
      exact (hsound i hi).conforms hx

end Record

/-! ## All types -/

theorem Describes.guarded [Text.Repertoire] {type : TypeExpr} {schema : Schema}
    (h : registry.Describes type schema) (hdistinct : registry.DistinctMembers type)
    {value : Value} (haccepts : schema.Accepts value) : registry.Guarded schema value type := by
  induction h generalizing value with
  | scalar s => exact guarded_scalar s haccepts
  | openArray form => exact guarded_openArray form haccepts
  | array _ ih =>
    exact guarded_array haccepts fun item => ih (hdistinct.inner (.element _ _))
  | mapping form arguments => exact guarded_mapping form arguments haccepts
  | annotated extras _ ih =>
    exact guarded_annotated extras (ih (hdistinct.inner (.base _ extras)) haccepts)
  | record hfind hfields hhints htags ih =>
    exact guarded_record ⟨hfind, hfields, hhints, htags, hdistinct _ _ _ .refl hfind hfields⟩
      haccepts fun f hf value => ih f hf (hdistinct.inner (.hint hfind hfields hf))

end Registry
end Schematic
