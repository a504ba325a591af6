import Schematic.Proofs.Loading.Plain
import Schematic.Proofs.Loading.Soundness
import Schematic.Record.Definition

/-!
Types that are loaded soundly have constructible records.  For each selection of the fields of a
record there is a document with a sample value for each of them.  No sample holds an integer in the
place of a float, so that loading such a document comes to a value that conforms, and this shows
that the record was built whole.
-/

namespace Schematic
namespace Schema

mutual

/-- A value of a schema, with a value for every field. -/
def sample : Schema → Value
  | ⟨kind, _, fields, _⟩ =>
    match kind with
    | .boolean => .bool false
    | .string => .str ""
    | .integer => .int 0
    | .number => .float (.zeroOf false)
    | .datetime => .datetime .zero
    | .object => .dict (sampleEntries fields)
    | .array => .list []
termination_by structural schema => schema

def sampleEntries : List (String × Field) → List (Value × Value)
  | [] => []
  | (name, field) :: rest => (.str name, sampleMember field) :: sampleEntries rest
termination_by structural fields => fields

def sampleMember : Field → Value
  | ⟨schema, _, _, _⟩ => sample schema
termination_by structural field => field

end

variable {schema : Schema}

theorem sample_ne_null (schema : Schema) : schema.sample ≠ .null := by
  obtain ⟨kind, description, fields, elements⟩ := schema
  cases kind <;> exact Value.noConfusion

theorem sample_describe (description : String) :
    ({ schema with description }).sample = schema.sample := by
  obtain ⟨kind, _, fields, elements⟩ := schema
  rfl

theorem sampleEntries_eq (fields : List (String × Field)) :
    sampleEntries fields = fields.map fun p => (.str p.1, p.2.schema.sample) := by
  induction fields with
  | nil => rfl
  | cons p rest ih =>
    obtain ⟨name, ⟨schema, required, default, tags⟩⟩ := p
    rw [sampleEntries, ih]
    rfl

theorem sample_object (hkind : schema.kind = .object) :
    schema.sample = .dict (schema.fields.map fun p => (.str p.1, p.2.schema.sample)) := by
  obtain ⟨kind, description, fields, elements⟩ := schema
  obtain rfl : kind = .object := hkind
  rw [← sampleEntries_eq]
  rfl

end Schema

theorem Value.lookup_map (name : String) (members : List (String × Value)) :
    Value.lookup name (members.map fun p => (.str p.1, p.2)) =
      (Registry.given? members name).getD .null := by
  induction members with
  | nil => rfl
  | cons p rest ih =>
    obtain ⟨key, value⟩ := p
    by_cases hkey : key = name
    · simp [Value.lookup, Registry.given?, hkey]
    · simpa [Value.lookup, Registry.given?, hkey] using ih

namespace Schema

variable {schema : Schema}

theorem lookup_sample (hnames : (schema.fields.map Prod.fst).Nodup) {p : String × Field}
    (hp : p ∈ schema.fields) :
    Value.lookup p.1 (schema.fields.map fun p => (.str p.1, p.2.schema.sample)) =
      p.2.schema.sample := by
  have hmembers : (schema.fields.map fun p => ((.str p.1 : Value), p.2.schema.sample)) =
      (schema.fields.map fun p => (p.1, p.2.schema.sample)).map fun p => (.str p.1, p.2) := by
    rw [List.map_map]
    rfl
  have hgiven : Registry.given? (schema.fields.map fun p => (p.1, p.2.schema.sample)) p.1 =
      some p.2.schema.sample := by
    refine Registry.given?_of_mem ?_ (List.mem_map.mpr ⟨p, hp, rfl⟩)
    rw [List.map_map]
    exact hnames
  rw [hmembers, Value.lookup_map, hgiven]
  rfl

theorem accepts_sample (h : schema.WellFormed) : schema.Accepts schema.sample := by
  induction schema using Schema.inductionOn with
  | step schema ihfields _ =>
    obtain ⟨kind, description, fields, elements⟩ := schema
    cases kind with
    | boolean => exact .scalar nofun nofun (.boolean false)
    | string => exact .scalar nofun nofun (.string "")
    | integer => exact .scalar nofun nofun (.integer 0)
    | number => exact .scalar nofun nofun (.number _)
    | datetime => exact .scalar nofun nofun (.datetime _)
    | array => exact .array rfl rfl fun _ _ _ hitem => nomatch hitem
    | object =>
      rw [sample_object rfl, accepts_object_iff rfl rfl]
      intro p hp
      have hlookup := lookup_sample h.nodup hp
      refine ⟨fun hnull => ?_, fun _ => ?_⟩
      · rw [hlookup] at hnull
        exact absurd hnull (sample_ne_null _)
      · rw [hlookup]
        exact ihfields p hp (h.field hp)

end Schema

namespace Registry

variable {registry : Registry} {ref : RecordRef} {c : RecordClass} {fields : List RecordField}
  {schemaOf : RecordField → Schema} {memberOf : RecordField → Field}

/-! ## Samples are no large integers -/

/-- A record stops at no large integer if none of its inputs does. -/
theorem load_record_ne_large [Text.Repertoire]
    (h : registry.DescribedRecord ref c fields schemaOf memberOf)
    {value : Value} {entries : List (Value × Value)} (hentries : value.entries? = some entries)
    (hinputs : ∀ i ∈ (recordSchema fields memberOf).inputs entries fields,
      (i.load registry).result ≠ .error .intTooLarge) :
    ((recordSchema fields memberOf).load registry value (.record ref)).result ≠
      .error .intTooLarge := by
  intro hlarge
  rw [(h.load_eq hentries).1] at hlarge
  rcases Outcome.bind_eq_error hlarge with herror | ⟨values, -, hbuild⟩
  · obtain ⟨i, hi, herror⟩ := Outcome.mapM_eq_error herror
    rcases Outcome.bind_eq_error herror with herror | ⟨x, -, hdone⟩
    · exact hinputs i hi herror
    · cases hdone
  · obtain ⟨e, he⟩ := h.describes.build_eq_error h.find hbuild
    cases he

/-- An input whose value is the sample of its schema. -/
theorem input_sample {schema : Schema} {entries : List (Value × Value)} {i : Loading.Input}
    (hi : i ∈ schema.inputs entries fields)
    (hlookup : ∀ member, Field.find? (memberName i.field.name) schema.fields = some member →
      Value.lookup (memberName i.field.name) entries = member.schema.sample) :
    i.value = i.schema.sample := by
  obtain ⟨-, hinput⟩ := Schema.mem_inputs hi
  obtain ⟨member, hmember, -⟩ := Option.bind_eq_some_iff.mp hinput
  have hsample := hlookup member hmember
  have hpresent : Value.lookup (memberName i.field.name) entries ≠ .null := by
    rw [hsample]
    exact Schema.sample_ne_null _
  rw [Schema.input?_of_lookup hmember hpresent] at hinput
  rw [← Option.some.inj hinput]
  exact hsample

theorem Describes.load_sample_ne_large [Text.Repertoire] {type : TypeExpr} {schema : Schema}
    (h : registry.Describes type schema) (hdistinct : registry.DistinctMembers type) :
    (schema.load registry schema.sample type).result ≠ .error .intTooLarge := by
  induction h with
  | scalar s => cases s <;> exact nofun
  | openArray form => exact nofun
  | array => exact nofun
  | mapping form arguments => exact nofun
  | annotated extras _ ih =>
    rw [load_annotated]
    exact ih (hdistinct.inner (.base _ extras))
  | @record ref c fields schemaOf memberOf hfind hfields hhints htags ih =>
    have h : registry.DescribedRecord ref c fields schemaOf memberOf :=
      ⟨hfind, hfields, hhints, htags, hdistinct _ _ _ .refl hfind hfields⟩
    have hentries : (recordSchema fields memberOf).sample.entries? = some
        ((recordSchema fields memberOf).fields.map fun p => (.str p.1, p.2.schema.sample)) := by
      rw [Schema.sample_object rfl]
      rfl
    refine load_record_ne_large h hentries fun i hi => ?_
    obtain ⟨hmem, hschema⟩ := h.schema_of_input hi
    have hvalue := input_sample hi fun member hmember =>
      Schema.lookup_sample h.describes.wellFormed.nodup (Schema.find?_mem hmember)
    rw [hschema, h.shape hmem, Schema.sample_describe] at hvalue
    rw [h.load_input hi, hvalue]
    exact ih i.field hmem (hdistinct.inner (.hint hfind hfields hmem))

/-! ## Documents -/

/-- The entries of a document with values for the chosen fields of a record. -/
def documentEntries (fields : List RecordField) (chosen : RecordField → Bool)
    (valueOf : RecordField → Value) : List (Value × Value) :=
  (fields.filter chosen).map fun f => (.str (memberName f.name), valueOf f)

section Document

variable {chosen : RecordField → Bool} {valueOf : RecordField → Value}

theorem lookup_documentEntries (hnames : (fields.map fun f => memberName f.name).Nodup)
    {f : RecordField} (hf : f ∈ fields) :
    Value.lookup (memberName f.name) (documentEntries fields chosen valueOf) =
      if chosen f then valueOf f else .null := by
  let members := (fields.filter chosen).map fun f => (memberName f.name, valueOf f)
  have hentries : documentEntries fields chosen valueOf =
      members.map fun p => (.str p.1, p.2) := by
    rw [documentEntries, List.map_map]
    rfl
  have hnodup : (members.map Prod.fst).Nodup := by
    rw [List.map_map]
    exact hnames.sublist (List.filter_sublist.map _)
  rw [hentries, Value.lookup_map]
  by_cases hchosen : chosen f = true
  · have hmem : (memberName f.name, valueOf f) ∈ members :=
      List.mem_map.mpr ⟨f, List.mem_filter.mpr ⟨hf, hchosen⟩, rfl⟩
    rw [given?_of_mem hnodup hmem, if_pos hchosen]
    rfl
  · have hnone : given? members (memberName f.name) = none := by
      rw [Option.eq_none_iff_forall_ne_some]
      intro v hv
      obtain ⟨g, hg, heq⟩ := List.mem_map.mp (given?_mem hv)
      obtain ⟨hmem, hchosen'⟩ := List.mem_filter.mp hg
      obtain rfl : g = f := List.inj_on_of_nodup_map hnames hmem hf (Prod.mk.inj heq).1
      exact hchosen hchosen'
    rw [hnone, if_neg hchosen]
    rfl

/-- A document with accepted values for a selection of the fields is accepted. -/
theorem accepts_document [Text.Repertoire]
    (h : registry.DescribedRecord ref c fields schemaOf memberOf)
    (hvalues : ∀ f ∈ fields, chosen f = true → (schemaOf f).Accepts (valueOf f))
    (hselects : (recordSchema fields memberOf).Selects fields chosen) :
    (recordSchema fields memberOf).Accepts (.dict (documentEntries fields chosen valueOf)) := by
  rw [Schema.accepts_object_iff rfl rfl]
  intro p hp
  rw [h.fields_eq] at hp
  obtain ⟨f, hf, rfl⟩ := List.mem_map.mp hp
  show Field.Satisfied (memberName f.name) (memberOf f) _
  unfold Field.Satisfied
  rw [lookup_documentEntries h.distinct hf]
  by_cases hchosen : chosen f = true
  · rw [if_pos hchosen]
    refine ⟨fun hnull => absurd hnull (hvalues f hf hchosen).ne_null, fun _ => ?_⟩
    rw [h.shape hf, Schema.accepts_describe_iff]
    exact hvalues f hf hchosen
  · rw [if_neg hchosen]
    refine ⟨fun _ => ?_, fun hnull => absurd rfl hnull⟩
    rw [← Bool.not_eq_true]
    exact fun hrequired => hchosen (hselects f hf _ (h.find?_member hf) (.inl hrequired))

/-- What such a document has for a field is what is loaded for it. -/
theorem input?_document [Text.Repertoire]
    (h : registry.DescribedRecord ref c fields schemaOf memberOf)
    (hvalues : ∀ f ∈ fields, chosen f = true → (schemaOf f).Accepts (valueOf f))
    (hselects : (recordSchema fields memberOf).Selects fields chosen) {f : RecordField}
    (hf : f ∈ fields) :
    (recordSchema fields memberOf).input? (documentEntries fields chosen valueOf) f =
      if chosen f then some ⟨f, (memberOf f).schema, valueOf f⟩ else none := by
  have hlookup := @lookup_documentEntries fields chosen valueOf h.distinct f hf
  by_cases hchosen : chosen f = true
  · rw [if_pos hchosen] at hlookup ⊢
    have hpresent : Value.lookup (memberName f.name) (documentEntries fields chosen valueOf) ≠
        .null := by
      rw [hlookup]
      exact (hvalues f hf hchosen).ne_null
    rw [Schema.input?_of_lookup (h.find?_member hf) hpresent, hlookup]
  · rw [if_neg hchosen] at hlookup ⊢
    have hdefault : (memberOf f).default = .null := by
      by_contra hdefault
      exact hchosen (hselects f hf _ (h.find?_member hf) (.inr hdefault))
    rw [Schema.input?, h.find?_member hf, Option.bind_some, Field.valueIn, hlookup, hdefault]
    rfl

/-- Such a document stops at a large integer, or the record is built from the values for the
selection. -/
theorem load_document [Text.Repertoire]
    (h : registry.DescribedRecord ref c fields schemaOf memberOf)
    (hvalues : ∀ f ∈ fields, chosen f = true → (schemaOf f).Accepts (valueOf f))
    (hselects : (recordSchema fields memberOf).Selects fields chosen)
    (hsound : ∀ value, (recordSchema fields memberOf).Accepts value →
      registry.Sound (recordSchema fields memberOf) value (.record ref)) :
    (∃ f ∈ fields, chosen f = true ∧
        ((schemaOf f).load registry (valueOf f) f.hint).result = .error .intTooLarge) ∨
      ∃ values x, (recordSchema fields memberOf).loadInputs registry
          (documentEntries fields chosen valueOf) fields = .ok values ∧
        registry.build c values = .ok x ∧
        registry.Conforms (.record ref)
          (some (.dict (documentEntries fields chosen valueOf))) x := by
  obtain ⟨-, hresult⟩ := hsound _ (accepts_document h hvalues hselects)
  rw [(h.load_eq rfl).1] at hresult
  rcases hresult with hlarge | ⟨x, hx, hconforms⟩
  · rcases Outcome.bind_eq_error hlarge with herror | ⟨values, -, hbuild⟩
    · obtain ⟨i, hi, herror⟩ := Outcome.mapM_eq_error herror
      rcases Outcome.bind_eq_error herror with herror | ⟨x, -, hdone⟩
      · obtain ⟨hmem, hinput⟩ := Schema.mem_inputs hi
        rw [h.load_input hi] at herror
        rw [input?_document h hvalues hselects hmem] at hinput
        split at hinput
        next hchosen =>
          have hvalue : valueOf i.field = i.value :=
            congrArg Loading.Input.value (Option.some.inj hinput)
          rw [← hvalue] at herror
          exact .inl ⟨i.field, hmem, hchosen, herror⟩
        next => cases hinput
      · cases hdone
    · obtain ⟨e, he⟩ := h.describes.build_eq_error h.find hbuild
      cases he
  · obtain ⟨values, hloaded, hbuild⟩ := Outcome.bind_eq_ok hx
    exact .inr ⟨values, x, hloaded, hbuild, hconforms⟩

end Document

/-! ## Constructible records -/

/-- A record that is loaded soundly can be built whole from each selection of its fields. -/
theorem makesWhole_of_sound [Text.Repertoire]
    (h : registry.DescribedRecord ref c fields schemaOf memberOf)
    (hdistinct : registry.DistinctMembers (.record ref))
    (hsound : ∀ value, (recordSchema fields memberOf).Accepts value →
      registry.Sound (recordSchema fields memberOf) value (.record ref))
    {chosen : RecordField → Bool}
    (hselects : (recordSchema fields memberOf).Selects fields chosen) :
    registry.MakesWhole c ((fields.filter chosen).map (·.name)) := by
  have hvalues : ∀ f ∈ fields, chosen f = true → (schemaOf f).Accepts (schemaOf f).sample :=
    fun f hf _ => Schema.accepts_sample (h.hints f hf).wellFormed
  rcases load_document h hvalues hselects hsound with
    ⟨f, hf, -, hlarge⟩ | ⟨values, x, hloaded, hbuild, hconforms⟩
  · have hinner : registry.DistinctMembers f.hint := hdistinct.inner (.hint h.find h.listed hf)
    exact absurd hlarge ((h.hints f hf).load_sample_ne_large hinner)
  · have hinput : ∀ f ∈ fields, ((recordSchema fields memberOf).input?
        (documentEntries fields chosen fun f => (schemaOf f).sample) f).isSome = chosen f := by
      intro f hf
      rw [input?_document h hvalues hselects hf]
      cases chosen f <;> rfl
    have hnames := loaded_names hloaded
    rw [List.filter_congr hinput] at hnames
    rw [← hnames]
    obtain ⟨blank, hblank, hagree⟩ :=
      (build_alike (forall₂_agreeOff_null values) registry c).symm.eq_ok hbuild
    obtain ⟨slots, _, rfl, rfl, hforall⟩ := hagree
    rw [ref_of_find? h.find] at hconforms
    refine ⟨slots, hblank, slots_names_eq hforall ▸ hconforms.nodup_slots, ?_⟩
    intro listed hlisted f hf
    obtain rfl := Except.ok.inj (h.listed.symm.trans hlisted)
    obtain ⟨x, hx, hheld⟩ := hconforms.field h.find h.listed hf
    obtain ⟨⟨name, slot⟩, hslot, rfl, hsome, hsame⟩ := Outcome.exists_of_mem_right hforall hx
    obtain ⟨y, rfl⟩ := Option.isSome_iff_exists.mp hsome
    refine ⟨y, hslot, fun hnot => ?_⟩
    obtain rfl : y = x := Option.some.inj (hsame hnot)
    exact hheld.symm

/-! ## From a type to those inside it -/

/-- A field of a record that is loaded soundly is loaded soundly. -/
theorem sound_hint [Text.Repertoire] (h : registry.DescribedRecord ref c fields schemaOf memberOf)
    (hdistinct : registry.DistinctMembers (.record ref))
    (hsound : ∀ value, (recordSchema fields memberOf).Accepts value →
      registry.Sound (recordSchema fields memberOf) value (.record ref))
    {f : RecordField} (hf : f ∈ fields) {value : Value} (haccepts : (schemaOf f).Accepts value) :
    registry.Sound (schemaOf f) value f.hint := by
  have hinner : ∀ g ∈ fields, registry.DistinctMembers g.hint := fun g hg =>
    hdistinct.inner (.hint h.find h.listed hg)
  refine ⟨((h.hints f hf).guarded (hinner f hf) haccepts).events, ?_⟩
  -- the value in a document, with samples for the other fields
  let valueOf (g : RecordField) : Value := if g.name = f.name then value else (schemaOf g).sample
  have hvalue : valueOf f = value := if_pos rfl
  have hother : ∀ g ∈ fields, g ≠ f → valueOf g = (schemaOf g).sample := by
    intro g hg hne
    exact if_neg fun hname => hne (List.inj_on_of_nodup_map (nodup_names h.distinct) hg hf hname)
  have hvalues : ∀ g ∈ fields, true = true → (schemaOf g).Accepts (valueOf g) := by
    intro g hg _
    by_cases hsame : g = f
    · rw [hsame, hvalue]
      exact haccepts
    · rw [hother g hg hsame]
      exact Schema.accepts_sample (h.hints g hg).wellFormed
  have hselects : (recordSchema fields memberOf).Selects fields fun _ => true :=
    fun _ _ _ _ _ => rfl
  rcases load_document h hvalues hselects hsound with
    ⟨g, hg, -, hlarge⟩ | ⟨values, x, hloaded, hbuild, hconforms⟩
  · by_cases hsame : g = f
    · rw [hsame, hvalue] at hlarge
      exact .inl hlarge
    · rw [hother g hg hsame] at hlarge
      exact absurd hlarge ((h.hints g hg).load_sample_ne_large (hinner g hg))
  · have hinput := input?_document h hvalues hselects hf
    rw [if_pos rfl, hvalue] at hinput
    obtain ⟨y, hy, hgiven⟩ := (loaded_of_input? h.distinct hloaded hf).1 _ hinput
    rw [h.load_input (List.mem_filterMap.mpr ⟨f, hf, hinput⟩)] at hy
    have hlookup := @lookup_documentEntries fields (fun _ => true) valueOf h.distinct f hf
    rw [if_pos rfl, hvalue] at hlookup
    refine .inr ⟨y, hy, ?_⟩
    obtain ⟨slots, rfl, hheld⟩ := build_held h.listed hbuild
    rw [ref_of_find? h.find] at hconforms
    obtain ⟨held, hset, -⟩ := hconforms.field h.find h.listed hf
    have hloaded := hconforms.given h.find h.listed rfl hf (by rw [hlookup]; exact haccepts.ne_null)
      (hheld f hf held hset y hgiven)
    rwa [hlookup] at hloaded

theorem sound_element [Text.Repertoire] {form : ArrayForm} {element : TypeExpr} {schema : Schema}
    (hdescribes : registry.Describes element schema) (hdistinct : registry.DistinctMembers element)
    (hsound : ∀ value, (Schema.arrayOf schema).Accepts value →
      registry.Sound (.arrayOf schema) value (.array form element))
    {value : Value} (haccepts : schema.Accepts value) : registry.Sound schema value element := by
  refine ⟨(hdescribes.guarded hdistinct haccepts).events, ?_⟩
  have hlist : (Schema.arrayOf schema).Accepts (.list [value]) := by
    refine .array rfl rfl fun inner hinner item hitem => ?_
    obtain rfl := Option.some.inj hinner
    obtain rfl := List.mem_singleton.mp hitem
    exact haccepts
  obtain ⟨-, hresult⟩ := hsound _ hlist
  have hload :
      ((Schema.arrayOf schema).load registry (.list [value]) (.array form element)).result =
        [value].mapM (fun item => (schema.load registry item element).result) >>= fun loaded =>
          .ok (.list loaded) := by
    rw [Schema.load_array rfl rfl]
    exact Schema.loadElements_result _ _ _
  rw [hload] at hresult
  rcases hresult with hlarge | ⟨x, hx, hconforms⟩
  · rcases Outcome.bind_eq_error hlarge with herror | ⟨loaded, -, hdone⟩
    · obtain ⟨item, hitem, hstops⟩ := Outcome.mapM_eq_error herror
      obtain rfl := List.mem_singleton.mp hitem
      exact .inl hstops
    · cases hdone
  · obtain ⟨loaded, hloaded, hdone⟩ := Outcome.bind_eq_ok hx
    obtain rfl := Except.ok.inj hdone
    cases Outcome.mapM_eq_ok hloaded with
    | @cons _ y _ _ hy hnil =>
      cases hnil
      generalize hinput : some (Value.list [value]) = input at hconforms
      cases hconforms with
      | array source hsource helements =>
        obtain ⟨inputs, hinputs, -, hat⟩ := hsource _ hinput.symm
        obtain rfl := Option.some.inj hinputs
        have hconforms := helements 0 y rfl
        rw [hat 0] at hconforms
        exact .inr ⟨y, hy, hconforms⟩

/-- Every type inside a type that is loaded soundly is loaded soundly. -/
theorem Describes.sound_within [Text.Repertoire] {type inner : TypeExpr} {schema : Schema}
    (h : registry.Describes type schema) (hdistinct : registry.DistinctMembers type)
    (hsound : ∀ value, schema.Accepts value → registry.Sound schema value type)
    (hwithin : registry.Within inner type) :
    ∃ part, registry.Describes inner part ∧
      ∀ value, part.Accepts value → registry.Sound part value inner := by
  induction hwithin using Relation.ReflTransGen.head_induction_on with
  | refl => exact ⟨schema, h, hsound⟩
  | @head inner outer hstep hwithin ih =>
    obtain ⟨whole, hwhole, hsound⟩ := ih
    have hdistinct : registry.DistinctMembers outer := hdistinct.within hwithin
    cases hstep with
    | base _ extras =>
      cases hwhole with
      | annotated _ hbase =>
        refine ⟨whole, hbase, fun value haccepts => ?_⟩
        obtain ⟨hevents, hresult⟩ := hsound value haccepts
        rw [load_annotated] at hevents hresult
        refine ⟨hevents, hresult.imp_right ?_⟩
        rintro ⟨x, hx, hconforms⟩
        cases hconforms with
        | annotated hbase => exact ⟨x, hx, hbase⟩
    | element form =>
      cases hwhole with
      | array helement =>
        exact ⟨_, helement, fun value haccepts =>
          sound_element helement (hdistinct.inner (.element form _)) hsound haccepts⟩
    | @hint ref c fields f hfind hfields hmem =>
      obtain ⟨schemaOf, memberOf, hrecord, rfl⟩ :=
        hwhole.describedRecord hfind hfields (hdistinct _ _ _ .refl hfind hfields)
      exact ⟨_, hrecord.hints _ hmem, fun value haccepts =>
        sound_hint hrecord hdistinct hsound hmem haccepts⟩

theorem Describes.constructible [Text.Repertoire] {type : TypeExpr} {schema : Schema}
    (h : registry.Describes type schema) (hdistinct : registry.DistinctMembers type)
    (hsound : ∀ value, schema.Accepts value → registry.Sound schema value type) :
    registry.Constructible type := by
  intro ref c fields part hwithin hfind hfields hpart chosen hselects
  obtain ⟨_, hdescribes, hsound⟩ := h.sound_within hdistinct hsound hwithin
  obtain ⟨schemaOf, memberOf, hrecord, rfl⟩ :=
    hdescribes.describedRecord hfind hfields (hdistinct ref c fields hwithin hfind hfields)
  obtain rfl := hpart.unique hrecord.describes
  exact makesWhole_of_sound hrecord (hdistinct.within hwithin) hsound hselects

theorem sound_of_plain [Text.Repertoire] {type : TypeExpr} {schema : Schema}
    (hderive : registry.derive type = .ok schema) (hdistinct : registry.DistinctMembers type)
    (hplain : registry.PlainRecords type) {value : Value}
    (hvalid : schema.validate value = .ok ()) : registry.Sound schema value type := by
  have hdescribes := describes_of_derive hderive
  have hguarded :=
    hdescribes.guarded hdistinct ((Schema.validate_eq_ok_iff schema value).mp hvalid)
  exact hguarded.sound (hdescribes.constructible_of_plain hdistinct hplain)

/-- Loading an accepted value into a type with a schema notes nothing, and nothing stops it but an
integer beyond the range of floats and a record that cannot be built.  What is loaded conforms to
the type, whatever the accepted value, if and only if the records of the type are constructible. -/
theorem sound_iff_constructible [Text.Repertoire] {type : TypeExpr} {schema : Schema}
    (hderive : registry.derive type = .ok schema) (hdistinct : registry.DistinctMembers type) :
    (∀ value, schema.validate value = .ok () →
        (schema.load registry value type).events = [] ∧
          ∀ fault, (schema.load registry value type).result = .error fault →
            fault = .intTooLarge ∨ ∃ e, fault = .instanceFault e) ∧
      ((∀ value, schema.validate value = .ok () → registry.Sound schema value type) ↔
        registry.Constructible type) := by
  have hdescribes := describes_of_derive hderive
  simp only [Schema.validate_eq_ok_iff]
  refine ⟨fun value haccepts => ?_, ?_⟩
  · have hguarded := hdescribes.guarded hdistinct haccepts
    exact ⟨hguarded.events, hguarded.fault⟩
  · constructor
    · exact hdescribes.constructible hdistinct
    · intro hconstructible value haccepts
      exact (hdescribes.guarded hdistinct haccepts).sound hconstructible

def seatRef : RecordRef := ⟨2, .data, recordModule, "Seat", false⟩

def seatClass : RecordClass :=
  let fields : List FieldDecl :=
    [⟨"Row", .scalar .int, none, "", true, false⟩,
      ⟨"Label", .scalar .str, some (.str "-"), "", true, false⟩]
  ⟨seatRef, [seatRef, .root], fields, some fields, []⟩

def seatFields : List RecordField :=
  [⟨"Row", .scalar .int, "", none⟩, ⟨"Label", .scalar .str, "", some (.str "-")⟩]

def seats : Registry := ⟨initial.classes ++ [seatClass]⟩

/-- Seats are loaded soundly, whatever the value. -/
theorem sound_iff_constructible_seats :
    ∃ schema, seats.derive (.record seatRef) = .ok schema ∧
      ∀ value, schema.validate value = .ok () → seats.Sound schema value (.record seatRef) := by
  have hfind : seats.find? seatRef = some seatClass := rfl
  have hfields : seats.fields seatClass = .ok seatFields := rfl
  have honly : ∀ ref c, seats.Within (.record ref) (.record seatRef) →
      seats.find? ref = some c → c = seatClass := by
    intro ref c hwithin hc
    obtain rfl := hwithin.eq_of_scalars hfind hfields (by simp [seatFields])
    exact Option.some.inj (hc.symm.trans hfind)
  have hdistinct : seats.DistinctMembers (.record seatRef) := by
    intro ref c fields hwithin hc hlisted
    obtain rfl := honly ref c hwithin hc
    obtain rfl := Except.ok.inj (hfields.symm.trans hlisted)
    decide +kernel
  have hplain : seats.PlainRecords (.record seatRef) := by
    intro ref c hwithin hc
    obtain rfl := honly ref c hwithin hc
    have hmaker : seats.maker? seatClass.ancestry = some seatClass := rfl
    refine .data rfl hmaker rfl (by decide) fun v hv => ?_
    obtain rfl : v = .str "-" := by simpa using hv
    rfl
  have hsome : (seats.derive (.record seatRef)).isOk = true := by decide +kernel
  cases hderive : seats.derive (.record seatRef) with
  | error reason => rw [hderive] at hsome; cases hsome
  | ok schema =>
    obtain ⟨-, hsound⟩ := sound_iff_constructible hderive hdistinct
    have hdescribes := describes_of_derive hderive
    exact ⟨schema, rfl, hsound.mpr (hdescribes.constructible_of_plain hdistinct hplain)⟩

def ticketRef : RecordRef := ⟨2, .model, recordModule, "Ticket", false⟩

def ticketDecl : RecordDecl :=
  ⟨"Ticket", .model, [⟨"cls", .scalar .int, none, "", true, false⟩], [], false⟩

def ticketClass : RecordClass :=
  ⟨ticketRef, ticketRef :: RecordKind.roots .model, ticketDecl.fields, none,
    [⟨"cls", .scalar .int, none, true⟩]⟩

def tickets : Registry := ⟨initial.classes ++ [ticketClass]⟩

/-- A ticket is accepted and cannot be built: the name of its field is the one under which the
model itself is given. -/
theorem ticket_not_loaded :
    initial.defineAll [ticketDecl] = .ok tickets ∧
      tickets.DistinctMembers (.record ticketRef) ∧
      ∃ schema, tickets.derive (.record ticketRef) = .ok schema ∧
        schema.validate (.dict [(.str "cls", .int 1)]) = .ok () ∧
        (schema.load tickets (.dict [(.str "cls", .int 1)]) (.record ticketRef)).result =
          .error (.instanceFault (.givenTwice "BaseModel.model_construct" "cls")) := by
  have hfind : tickets.find? ticketRef = some ticketClass := rfl
  have hfields : tickets.fields ticketClass = .ok [⟨"cls", .scalar .int, "", none⟩] := rfl
  refine ⟨rfl, ?_, ?_⟩
  · intro ref c fields hwithin hc hlisted
    obtain rfl := hwithin.eq_of_scalars hfind hfields (by simp)
    obtain ⟨rfl, rfl⟩ := listed_unique hfind hfields hc hlisted
    decide +kernel
  · let accepts (schema : Schema) : Bool :=
      (schema.validate (.dict [(.str "cls", .int 1)])).isOk
    let fault? (schema : Schema) : Option LoadFault :=
      match (schema.load tickets (.dict [(.str "cls", .int 1)]) (.record ticketRef)).result with
      | .ok _ => none
      | .error fault => some fault
    have hrun : (tickets.derive (.record ticketRef)).toOption.map
        (fun schema => (accepts schema, fault? schema)) =
          some (true, some (.instanceFault (.givenTwice "BaseModel.model_construct" "cls"))) := by
      decide +kernel
    cases hderive : tickets.derive (.record ticketRef) with
    | error reason => rw [hderive] at hrun; cases hrun
    | ok schema =>
      rw [hderive] at hrun
      obtain ⟨haccepts, hfault⟩ := Prod.mk.inj (Option.some.inj hrun)
      refine ⟨schema, rfl, ?_, ?_⟩
      · cases hvalid : schema.validate (.dict [(.str "cls", .int 1)]) with
        | ok _ => rfl
        | error failure => simp only [accepts, hvalid] at haccepts; cases haccepts
      · cases hload : (schema.load tickets (.dict [(.str "cls", .int 1)])
          (.record ticketRef)).result with
        | ok x => simp only [fault?, hload] at hfault; cases hfault
        | error fault =>
          simp only [fault?, hload] at hfault
          exact congrArg Except.error (Option.some.inj hfault)

end Registry
end Schematic
