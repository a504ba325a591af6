import Schematic.Proofs.Loading.Steps
import Schematic.Proofs.Record.Building
import Schematic.Proofs.Record.Definition

/-!
What loaded values look like.  A loaded value conforms to its type, in a way that remembers what it
was loaded from: a list has as many elements as its input, and a field for which something was
loaded conforms to its type with that as its input.  A field for which nothing was loaded holds a
declared default, or else a zero value.

Whether records can be built is the affair of the records: `Constructible` is that every record of
a type can be built from each selection of its fields that a document can make.
-/

namespace Schematic

/-- A selection of the fields of a record for which something is loaded: it leaves out no required
field and none whose member has a default. -/
def Schema.Selects (schema : Schema) (fields : List RecordField)
    (chosen : RecordField → Bool) : Prop :=
  ∀ f ∈ fields, ∀ member, Field.find? (memberName f.name) schema.fields = some member →
    member.required = true ∨ member.default ≠ .null → chosen f = true

namespace Registry

/-- A value conforms to a type, given what it was loaded from, if anything. -/
inductive Conforms (registry : Registry) : TypeExpr → Option Value → Value → Prop
  | bool {input : Option Value} (b : Bool) : Conforms registry (.scalar .bool) input (.bool b)
  | str {input : Option Value} (s : String) : Conforms registry (.scalar .str) input (.str s)
  | int {input : Option Value} (i : Int) : Conforms registry (.scalar .int) input (.int i)
  | float {input : Option Value} (x : Binary64) :
      Conforms registry (.scalar .float) input (.float x)
  | datetime {input : Option Value} (d : DateTime) :
      Conforms registry (.scalar .datetime) input (.datetime d)
  | openArray {form : ArrayForm} {input : Option Value} {items : List Value}
      (hinput : ∀ value, input = some value → value.items? = some items) :
      Conforms registry (.openArray form) input (.list items)
  | array {form : ArrayForm} {element : TypeExpr} {input : Option Value} {items : List Value}
      (source : Nat → Option Value)
      (hinput : ∀ value, input = some value → ∃ inputs, value.items? = some inputs ∧
        inputs.length = items.length ∧ ∀ k, source k = inputs[k]?)
      (helements : ∀ k x, items[k]? = some x → Conforms registry element (source k) x) :
      Conforms registry (.array form element) input (.list items)
  | mapping {form : MappingForm} {arguments : List TypeExpr} {input : Option Value}
      (entries : List (Value × Value)) :
      Conforms registry (.mapping form arguments) input (.dict entries)
  | annotated {base : TypeExpr} {extras : List Extra} {input : Option Value} {value : Value}
      (hbase : Conforms registry base input value) :
      Conforms registry (.annotated base extras) input value
  /-- An instance of the record in which every field holds a value, one under each name.  A value
  that the input has for a field is the source of what the field holds; any other field has the
  default of its member as its source, or none. -/
  | record {ref : RecordRef} {c : RecordClass} {fields : List RecordField} {input : Option Value}
      {slots : List (String × Option Value)} (held : RecordField → Value)
      (source : RecordField → Option Value) (hfind : registry.find? ref = some c)
      (hfields : registry.fields c = .ok fields) (hslots : (slots.map Prod.fst).Nodup)
      (hset : ∀ f ∈ fields, (f.name, some (held f)) ∈ slots)
      (hinput : ∀ value entries, input = some value → value.entries? = some entries →
        ∀ f ∈ fields, Value.lookup (memberName f.name) entries ≠ .null →
          source f = some (Value.lookup (memberName f.name) entries))
      (hloaded : ∀ f ∈ fields, source f ≠ none → Conforms registry f.hint (source f) (held f))
      (hkept : ∀ f ∈ fields, source f = none → ¬ c.DeclaresDefault f.name (held f) →
        Conforms registry f.hint none (held f)) :
      Conforms registry (.record ref) input (.record ref slots)

/-- A record can be built from the given fields, and then every field holds a value, one under each
name; a field that is not given holds a declared default or conforms to its type. -/
def MakesWhole (registry : Registry) (c : RecordClass) (names : List String) : Prop :=
  ∃ slots, registry.build c (names.map fun name => (name, .null)) = .ok (.record c.ref slots) ∧
    (slots.map Prod.fst).Nodup ∧
    ∀ fields, registry.fields c = .ok fields → ∀ f ∈ fields, ∃ x, (f.name, some x) ∈ slots ∧
      (f.name ∉ names → c.DeclaresDefault f.name x ∨ registry.Conforms f.hint none x)

/-- No record of a type has two fields under one member name. -/
def DistinctMembers (registry : Registry) (type : TypeExpr) : Prop :=
  ∀ ref c fields, registry.Within (.record ref) type → registry.find? ref = some c →
    registry.fields c = .ok fields → (fields.map fun f => memberName f.name).Nodup

/-- Every record of a type can be built from all that a document can select. -/
def Constructible [Text.Repertoire] (registry : Registry) (type : TypeExpr) : Prop :=
  ∀ ref c fields schema, registry.Within (.record ref) type → registry.find? ref = some c →
    registry.fields c = .ok fields → registry.Describes (.record ref) schema →
      ∀ chosen, schema.Selects fields chosen →
        registry.MakesWhole c ((fields.filter chosen).map (·.name))

variable {registry : Registry}

theorem DistinctMembers.within {type inner : TypeExpr} (h : registry.DistinctMembers type)
    (hinner : registry.Within inner type) : registry.DistinctMembers inner :=
  fun ref c fields hwithin => h ref c fields (hwithin.trans hinner)

theorem DistinctMembers.inner {type inner : TypeExpr} (h : registry.DistinctMembers type)
    (hinner : registry.Inner inner type) : registry.DistinctMembers inner :=
  h.within (.single hinner)

theorem distinctMembers_scalar (s : Scalar) : registry.DistinctMembers (.scalar s) := by
  intro ref c fields hwithin
  rcases Relation.ReflTransGen.cases_tail hwithin with heq | ⟨between, -, hinner⟩
  · cases heq
  · cases hinner

/-- The names of the fields of a record are translated apart, and so are those inside their types. -/
theorem distinctMembers_record {ref : RecordRef} {c : RecordClass} {fields : List RecordField}
    (hfind : registry.find? ref = some c) (hfields : registry.fields c = .ok fields)
    (hnames : (fields.map fun f => memberName f.name).Nodup)
    (hhints : ∀ f ∈ fields, registry.DistinctMembers f.hint) :
    registry.DistinctMembers (.record ref) := by
  intro ref' c' fields' hwithin hfind' hfields'
  rcases Relation.ReflTransGen.cases_tail hwithin with heq | ⟨between, hrest, hinner⟩
  · obtain rfl := TypeExpr.record.inj heq
    obtain ⟨rfl, rfl⟩ := listed_unique hfind hfields hfind' hfields'
    exact hnames
  · obtain ⟨f, hf, rfl⟩ := hinner.hint_of_mem hfind hfields
    exact hhints f hf ref' c' fields' hrest hfind' hfields'

theorem Constructible.inner [Text.Repertoire] {type inner : TypeExpr}
    (h : registry.Constructible type)
    (hinner : registry.Inner inner type) : registry.Constructible inner :=
  fun ref c fields schema hwithin => h ref c fields schema (hwithin.tail hinner)

theorem Conforms.forget {type : TypeExpr} {input : Option Value} {value : Value}
    (h : registry.Conforms type input value) : registry.Conforms type none value := by
  induction h with
  | bool b => exact .bool b
  | str s => exact .str s
  | int i => exact .int i
  | float x => exact .float x
  | datetime d => exact .datetime d
  | openArray => exact .openArray nofun
  | array source _ helements => exact .array source nofun helements
  | mapping entries => exact .mapping entries
  | annotated _ ih => exact .annotated ih
  | record held source hfind hfields hslots hset _ hloaded hkept =>
    exact .record held source hfind hfields hslots hset nofun hloaded hkept

theorem Conforms.nodup_slots {ref : RecordRef} {input : Option Value}
    {slots : List (String × Option Value)}
    (h : registry.Conforms (.record ref) input (.record ref slots)) :
    (slots.map Prod.fst).Nodup := by
  cases h with
  | record _ _ _ _ hslots => exact hslots

/-- Every field of a record that conforms holds a value that conforms to its type, or else a default
that is declared for it. -/
theorem Conforms.field {ref : RecordRef} {c : RecordClass} {fields : List RecordField}
    {input : Option Value} {slots : List (String × Option Value)}
    (h : registry.Conforms (.record ref) input (.record ref slots))
    (hfind : registry.find? ref = some c) (hfields : registry.fields c = .ok fields)
    {f : RecordField} (hf : f ∈ fields) :
    ∃ x, (f.name, some x) ∈ slots ∧
      (registry.Conforms f.hint none x ∨ c.DeclaresDefault f.name x) := by
  cases h with
  | record held source hfind' hfields' _ hset _ hloaded hkept =>
    obtain ⟨rfl, rfl⟩ := listed_unique hfind hfields hfind' hfields'
    refine ⟨held f, hset f hf, ?_⟩
    by_cases hsource : source f = none
    · by_cases hdefault : c.DeclaresDefault f.name (held f)
      · exact .inr hdefault
      · exact .inl (hkept f hf hsource hdefault)
    · exact .inl (hloaded f hf hsource).forget

/-- What a field holds that the input has a value for conforms to that value. -/
theorem Conforms.given {ref : RecordRef} {c : RecordClass} {fields : List RecordField}
    {value : Value} {entries : List (Value × Value)} {slots : List (String × Option Value)}
    (h : registry.Conforms (.record ref) (some value) (.record ref slots))
    (hfind : registry.find? ref = some c) (hfields : registry.fields c = .ok fields)
    (hentries : value.entries? = some entries) {f : RecordField} (hf : f ∈ fields)
    (hpresent : Value.lookup (memberName f.name) entries ≠ .null) {x : Value}
    (hx : (f.name, some x) ∈ slots) :
    registry.Conforms f.hint (some (Value.lookup (memberName f.name) entries)) x := by
  generalize hinput : some value = input at h
  cases h with
  | record held source hfind' hfields' hslots hset hsource hloaded =>
    obtain ⟨rfl, rfl⟩ := listed_unique hfind hfields hfind' hfields'
    have hsame : (f.name, some x) = (f.name, some (held f)) :=
      List.inj_on_of_nodup_map hslots hx (hset f hf) rfl
    obtain rfl : x = held f := Option.some.inj (Prod.mk.inj hsame).2
    have hfrom := hsource value entries hinput.symm hentries f hf hpresent
    rw [← hfrom]
    exact hloaded f hf (hfrom ▸ Option.some_ne_none _)

end Registry

/-! ## The inputs of a described record -/

namespace Schema

variable {registry : Registry} {schema : Schema}

theorem load_describe (description : String) (value : Value) (type : TypeExpr) :
    ({ schema with description }).load registry value type = schema.load registry value type := by
  obtain ⟨kind, _, fields, elements⟩ := schema
  rfl

theorem accepts_describe_iff (description : String) (value : Value) :
    ({ schema with description }).Accepts value ↔ schema.Accepts value := by
  rw [← validate_eq_ok_iff, ← validate_eq_ok_iff]
  obtain ⟨kind, _, fields, elements⟩ := schema
  rfl

theorem inputs_fields (schema : Schema) (entries : List (Value × Value))
    (fields : List RecordField) :
    (schema.inputs entries fields).map (·.field) =
      fields.filter fun f => (schema.input? entries f).isSome := by
  induction fields with
  | nil => rfl
  | cons f rest ih =>
    cases hinput : schema.input? entries f with
    | none =>
      rw [inputs, List.filterMap_cons_none hinput, List.filter_cons_of_neg (by simp [hinput])]
      exact ih
    | some i =>
      rw [inputs, List.filterMap_cons_some hinput, List.filter_cons_of_pos (by simp [hinput]),
        List.map_cons, (input?_eq_some hinput).1]
      exact congrArg (f :: ·) ih

/-- Something is loaded for the fields that an accepted object selects. -/
theorem selects_inputs {value : Value} {entries : List (Value × Value)}
    {fields : List RecordField} (haccepts : schema.Accepts value) (hkind : schema.kind = .object)
    (hentries : value.entries? = some entries) :
    schema.Selects fields fun f => (schema.input? entries f).isSome := by
  intro f _ member hmember hneeded
  have hsatisfied := (accepts_object_iff hkind hentries).mp haccepts _ (find?_mem hmember)
  have hpresent : Field.valueIn member (memberName f.name) entries ≠ .null := by
    unfold Field.valueIn
    by_cases habsent : Value.lookup (memberName f.name) entries = .null
    · rw [habsent]
      rcases hneeded with hrequired | hdefault
      · rw [hsatisfied.1 habsent] at hrequired
        cases hrequired
      · exact hdefault
    · rw [Value.isNull_eq_false habsent]
      exact habsent
  show (schema.input? entries f).isSome = true
  rw [input?, hmember, Option.bind_some, Value.isNull_eq_false hpresent]
  rfl

theorem input?_of_lookup {entries : List (Value × Value)} {f : RecordField} {member : Field}
    (hmember : Field.find? (memberName f.name) schema.fields = some member)
    (hlookup : Value.lookup (memberName f.name) entries ≠ .null) :
    schema.input? entries f =
      some ⟨f, member.schema, Value.lookup (memberName f.name) entries⟩ := by
  have hvalue : Field.valueIn member (memberName f.name) entries =
      Value.lookup (memberName f.name) entries := by
    unfold Field.valueIn
    rw [Value.isNull_eq_false hlookup]
    rfl
  rw [input?, hmember, Option.bind_some, hvalue, Value.isNull_eq_false hlookup]
  rfl

end Schema

namespace Registry

/-- The schema of a record with the given members for its fields. -/
def recordSchema (fields : List RecordField) (memberOf : RecordField → Field) : Schema :=
  .objectOf (Derivation.collect (fields.map fun f => (memberName f.name, memberOf f)))

/-- A record that has a schema, with the schemas of the types of its fields and the members that
they become, one under each name. -/
structure DescribedRecord [Text.Repertoire] (registry : Registry) (ref : RecordRef)
    (c : RecordClass) (fields : List RecordField) (schemaOf : RecordField → Schema)
    (memberOf : RecordField → Field) : Prop where
  find : registry.find? ref = some c
  listed : registry.fields c = .ok fields
  hints : ∀ f ∈ fields, registry.Describes f.hint (schemaOf f)
  tags : ∀ f ∈ fields, Tag.parse (schemaOf f).toField f.tag = .ok (memberOf f)
  distinct : (fields.map fun f => memberName f.name).Nodup 
theorem Describes.describedRecord [Text.Repertoire] {registry : Registry} {ref : RecordRef}
    {c : RecordClass}
    {fields : List RecordField} {schema : Schema} (h : registry.Describes (.record ref) schema)
    (hfind : registry.find? ref = some c) (hfields : registry.fields c = .ok fields)
    (hdistinct : (fields.map fun f => memberName f.name).Nodup) :
    ∃ schemaOf memberOf, registry.DescribedRecord ref c fields schemaOf memberOf ∧
      schema = recordSchema fields memberOf := by
  obtain ⟨schemaOf, memberOf, hhints, htags, rfl⟩ := h.of_record hfind hfields
  exact ⟨schemaOf, memberOf, ⟨hfind, hfields, hhints, htags, hdistinct⟩, rfl⟩

namespace DescribedRecord

variable {registry : Registry} {ref : RecordRef} {c : RecordClass} {fields : List RecordField}
  {schemaOf : RecordField → Schema} {memberOf : RecordField → Field}

theorem describes [Text.Repertoire] (h : registry.DescribedRecord ref c fields schemaOf memberOf) :
    registry.Describes (.record ref) (recordSchema fields memberOf) :=
  .record h.find h.listed h.hints h.tags

theorem fields_eq [Text.Repertoire] (h : registry.DescribedRecord ref c fields schemaOf memberOf) :
    (recordSchema fields memberOf).fields =
      fields.map fun f => (memberName f.name, memberOf f) := by
  refine Value.putMembers_nil_of_nodup ?_
  rw [List.map_map]
  exact h.distinct

/-- The schema of a member is that of the type of its field, with another description at most. -/
theorem shape [Text.Repertoire] (h : registry.DescribedRecord ref c fields schemaOf memberOf)
    {f : RecordField} (hf : f ∈ fields) : (memberOf f).schema =
      { schemaOf f with description := (memberOf f).schema.description } :=
  (Tag.parse_extends (Field.extends_toField _) (h.tags f hf)).shape

theorem find?_member [Text.Repertoire] (h : registry.DescribedRecord ref c fields schemaOf memberOf)
    {f : RecordField} (hf : f ∈ fields) :
    Field.find? (memberName f.name) (recordSchema fields memberOf).fields = some (memberOf f) := by
  have hnames : ((recordSchema fields memberOf).fields.map Prod.fst).Nodup := by
    rw [h.fields_eq, List.map_map]
    exact h.distinct
  have hmem : (memberName f.name, memberOf f) ∈ (recordSchema fields memberOf).fields := by
    rw [h.fields_eq]
    exact List.mem_map_of_mem hf
  show ((recordSchema fields memberOf).fields.find? fun p => p.1 == memberName f.name).map
    Prod.snd = _
  rw [Value.find?_of_nodup hnames hmem]
  rfl

theorem schema_of_input [Text.Repertoire]
    (h : registry.DescribedRecord ref c fields schemaOf memberOf)
    {entries : List (Value × Value)} {i : Loading.Input}
    (hi : i ∈ (recordSchema fields memberOf).inputs entries fields) :
    i.field ∈ fields ∧ i.schema = (memberOf i.field).schema := by
  obtain ⟨hmem, hinput⟩ := Schema.mem_inputs hi
  obtain ⟨member, hmember, hinput⟩ := Option.bind_eq_some_iff.mp hinput
  obtain rfl := Option.some.inj ((h.find?_member hmem).symm.trans hmember)
  split at hinput
  next => cases hinput
  next => exact ⟨hmem, (congrArg Loading.Input.schema (Option.some.inj hinput)).symm⟩

theorem load_input [Text.Repertoire] (h : registry.DescribedRecord ref c fields schemaOf memberOf)
    {entries : List (Value × Value)} {i : Loading.Input}
    (hi : i ∈ (recordSchema fields memberOf).inputs entries fields) :
    i.load registry = (schemaOf i.field).load registry i.value i.field.hint := by
  obtain ⟨hmem, hschema⟩ := h.schema_of_input hi
  rw [Loading.Input.load, hschema, h.shape hmem, Schema.load_describe]

theorem load_eq [Text.Repertoire] (h : registry.DescribedRecord ref c fields schemaOf memberOf)
    {value : Value} {entries : List (Value × Value)} (hentries : value.entries? = some entries) :
    ((recordSchema fields memberOf).load registry value (.record ref)).result =
        (recordSchema fields memberOf).loadInputs registry entries fields >>= registry.build c ∧
      ((∀ i ∈ (recordSchema fields memberOf).inputs entries fields, (i.load registry).events = []) →
        ((recordSchema fields memberOf).load registry value (.record ref)).events = []) :=
  Schema.load_record rfl hentries rfl h.find h.listed

end DescribedRecord

/-! ## Records -/

variable {registry : Registry} {ref : RecordRef} {c : RecordClass} {fields : List RecordField}

theorem nodup_names (hdistinct : (fields.map fun f => memberName f.name).Nodup) :
    (fields.map (·.name)).Nodup := by
  refine List.Nodup.of_map memberName ?_
  rw [List.map_map]
  exact hdistinct

theorem loaded_names {schema : Schema} {entries : List (Value × Value)}
    {values : List (String × Value)}
    (hvalues : schema.loadInputs registry entries fields = .ok values) :
    values.map Prod.fst =
      (fields.filter fun f => (schema.input? entries f).isSome).map (·.name) := by
  rw [Schema.loadInputs_names hvalues, ← Schema.inputs_fields, List.map_map]
  rfl

theorem nodup_loaded {schema : Schema} {entries : List (Value × Value)}
    {values : List (String × Value)}
    (hdistinct : (fields.map fun f => memberName f.name).Nodup)
    (hvalues : schema.loadInputs registry entries fields = .ok values) :
    (values.map Prod.fst).Nodup := by
  rw [loaded_names hvalues]
  exact (nodup_names hdistinct).sublist (List.filter_sublist.map _)

/-- What is loaded for a field stands under its name, and nothing stands there if nothing is. -/
theorem loaded_of_input? {schema : Schema} {entries : List (Value × Value)}
    {values : List (String × Value)}
    (hdistinct : (fields.map fun f => memberName f.name).Nodup)
    (hvalues : schema.loadInputs registry entries fields = .ok values)
    {f : RecordField} (hf : f ∈ fields) :
    (∀ i, schema.input? entries f = some i →
        ∃ x, (i.load registry).result = .ok x ∧ given? values f.name = some x) ∧
      (schema.input? entries f = none → f.name ∉ values.map Prod.fst) := by
  constructor
  · intro i hi
    have hmem : i ∈ schema.inputs entries fields := List.mem_filterMap.mpr ⟨f, hf, hi⟩
    obtain ⟨p, hp, hload⟩ := Outcome.exists_of_mem_left (Outcome.mapM_eq_ok hvalues) hmem
    obtain ⟨x, hx, hload⟩ := Outcome.bind_eq_ok hload
    obtain rfl := Except.ok.inj hload
    rw [(Schema.input?_eq_some hi).1] at hp
    exact ⟨x, hx, given?_of_mem (nodup_loaded hdistinct hvalues) hp⟩
  · intro hnone hname
    rw [Schema.loadInputs_names hvalues] at hname
    obtain ⟨i, hi, hname⟩ := List.mem_map.mp hname
    obtain ⟨hmem, hinput⟩ := Schema.mem_inputs hi
    have hsame : i.field = f := List.inj_on_of_nodup_map (nodup_names hdistinct) hmem hf hname
    rw [hsame, hnone] at hinput
    cases hinput

/-- What the fields of a record hold that was built from loaded values: for a field with an input what
was loaded from it, and for any other what a record that is built whole holds. -/
theorem held_of_build [Text.Repertoire] {schemaOf : RecordField → Schema}
    {memberOf : RecordField → Field} (h : registry.DescribedRecord ref c fields schemaOf memberOf)
    {entries : List (Value × Value)} {values : List (String × Value)}
    (hvalues : (recordSchema fields memberOf).loadInputs registry entries fields = .ok values)
    (hwhole : registry.MakesWhole c (values.map Prod.fst)) :
    ∃ slots, registry.build c values = .ok (.record c.ref slots) ∧ (slots.map Prod.fst).Nodup ∧
      ∀ f ∈ fields, ∃ x, (f.name, some x) ∈ slots ∧
        (∀ i, (recordSchema fields memberOf).input? entries f = some i →
          (i.load registry).result = .ok x) ∧
        ((recordSchema fields memberOf).input? entries f = none →
          c.DeclaresDefault f.name x ∨ registry.Conforms f.hint none x) := by
  obtain ⟨blank, hblank, hnames, hslots⟩ := hwhole
  obtain ⟨y, hy, hagree⟩ := (build_alike (forall₂_agreeOff_null values) registry c).eq_ok hblank
  obtain ⟨_, slots, heq, rfl, hforall⟩ := hagree
  obtain rfl := (Value.record.inj heq).2
  obtain ⟨_, heq, hheld⟩ := build_held h.listed hy
  obtain rfl := (Value.record.inj heq).2
  rw [slots_names_eq hforall] at hnames
  refine ⟨slots, hy, hnames, fun f hf => ?_⟩
  obtain ⟨x, hx, hkept⟩ := hslots fields h.listed f hf
  obtain ⟨⟨name, slot⟩, hslot, rfl, hsome, hsame⟩ := Outcome.exists_of_mem_left hforall hx
  obtain ⟨hloaded, hnone⟩ := loaded_of_input? h.distinct hvalues hf
  cases hinput : (recordSchema fields memberOf).input? entries f with
  | some i =>
    obtain ⟨loaded, hload, hgiven⟩ := hloaded i hinput
    obtain ⟨v, rfl⟩ := Option.isSome_iff_exists.mp hsome.symm
    refine ⟨loaded, hheld f hf v hslot loaded hgiven, fun j hj => ?_, nofun⟩
    obtain rfl := Option.some.inj hj
    exact hload
  | none =>
    obtain rfl := hsame (hnone hinput)
    exact ⟨x, hslot, nofun, fun _ => hkept (hnone hinput)⟩

/-- A record that can be built whole conforms, if what is loaded for its fields does. -/
theorem conforms_of_build [Text.Repertoire] {schemaOf : RecordField → Schema}
    {memberOf : RecordField → Field}
    (h : registry.DescribedRecord ref c fields schemaOf memberOf) {value : Value}
    {entries : List (Value × Value)} {values : List (String × Value)}
    (hentries : value.entries? = some entries)
    (hvalues : (recordSchema fields memberOf).loadInputs registry entries fields = .ok values)
    (hwhole : registry.MakesWhole c (values.map Prod.fst))
    (ih : ∀ i ∈ (recordSchema fields memberOf).inputs entries fields, ∀ x,
      (i.load registry).result = .ok x → registry.Conforms i.field.hint (some i.value) x) :
    ∃ x, registry.build c values = .ok x ∧ registry.Conforms (.record ref) (some value) x := by
  obtain ⟨slots, hbuild, hnames, hall⟩ := held_of_build h hvalues hwhole
  choose! held hheld using hall
  refine ⟨_, hbuild, ?_⟩
  rw [ref_of_find? h.find]
  refine .record held (fun f => ((recordSchema fields memberOf).input? entries f).map (·.value))
    h.find h.listed hnames (fun f hf => (hheld f hf).1) ?_ ?_ ?_
  · intro value' entries' hvalue hentries' f hf hlookup
    obtain rfl := Option.some.inj hvalue
    obtain rfl := Option.some.inj (hentries.symm.trans hentries')
    rw [Schema.input?_of_lookup (h.find?_member hf) hlookup]
    rfl
  · intro f hf hsource
    cases hinput : (recordSchema fields memberOf).input? entries f with
    | none => rw [hinput] at hsource; exact absurd rfl hsource
    | some i =>
      have hconforms :=
        ih i (List.mem_filterMap.mpr ⟨f, hf, hinput⟩) (held f) ((hheld f hf).2.1 i hinput)
      rw [(Schema.input?_eq_some hinput).1] at hconforms
      exact hconforms
  · intro f hf hsource hdefault
    have hnone : (recordSchema fields memberOf).input? entries f = none :=
      Option.map_eq_none_iff.mp hsource
    exact ((hheld f hf).2.2 hnone).resolve_left hdefault

end Registry
end Schematic
