import Schematic.Proofs.Schema.Reading
import Schematic.Proofs.Schema.WellFormed
import Schematic.Record.Definition

/-!
A schema is read back from its document.  The parts of a schema are read in the places where they
were written, so the proof goes by induction over the schema; what is special to a member is its
default, which is read again for the kind of the member.  The limit on nesting is a parameter: a
document is read back as soon as it has room for the depth of its schema.

What becomes of the defaults is a parameter as well.  Those of derived schemas stay as they are, so
that a derived schema is read back itself.
-/

namespace Schematic
namespace Schema

mutual

/-- The greatest number of definitions around a part of a schema. -/
def depth : Schema → Nat
  | ⟨_, _, fields, elements⟩ => max (depthOfFields fields) (depthOfElements elements)
termination_by structural schema => schema

def depthOfFields : List (String × Field) → Nat
  | [] => 0
  | (_, field) :: rest => max (depthOfField field + 1) (depthOfFields rest)
termination_by structural fields => fields

def depthOfField : Field → Nat
  | ⟨schema, _, _, _⟩ => depth schema
termination_by structural field => field

def depthOfElements : Option Schema → Nat
  | none => 0
  | some schema => depth schema + 1
termination_by structural elements => elements

end

theorem depth_lt_depthOfFields {fields : List (String × Field)} {p : String × Field}
    (h : p ∈ fields) : p.2.schema.depth < depthOfFields fields := by
  induction fields with
  | nil => cases h
  | cons q rest ih =>
    obtain ⟨name, ⟨schema, required, default, tags⟩⟩ := q
    show _ < max (schema.depth + 1) (depthOfFields rest)
    rcases List.mem_cons.mp h with rfl | hrest
    · exact Nat.lt_of_lt_of_le (Nat.lt_succ_self _) (Nat.le_max_left _ _)
    · exact Nat.lt_of_lt_of_le (ih hrest) (Nat.le_max_right _ _)

theorem depth_field_lt {schema : Schema} {p : String × Field} (h : p ∈ schema.fields) :
    p.2.schema.depth < schema.depth := by
  obtain ⟨kind, description, fields, elements⟩ := schema
  exact Nat.lt_of_lt_of_le (depth_lt_depthOfFields h) (Nat.le_max_left _ _)

theorem depth_element_lt {schema element : Schema} (h : schema.elements = some element) :
    element.depth < schema.depth := by
  obtain ⟨kind, description, fields, elements⟩ := schema
  cases h
  exact Nat.lt_of_lt_of_le (Nat.lt_succ_self _) (Nat.le_max_right _ _)

/-- A schema is no deeper than its parts make it. -/
theorem depth_lt_of_parts {schema : Schema} {limit : Nat} (hpos : 0 < limit)
    (hfields : ∀ p ∈ schema.fields, p.2.schema.depth + 1 < limit)
    (helements : ∀ element, schema.elements = some element → element.depth + 1 < limit) :
    schema.depth < limit := by
  obtain ⟨kind, description, fields, elements⟩ := schema
  refine Nat.max_lt.mpr ⟨?_, ?_⟩
  · change ∀ p ∈ fields, _ at hfields
    clear helements
    induction fields with
    | nil => exact hpos
    | cons p rest ih =>
      obtain ⟨name, ⟨inner, required, default, tags⟩⟩ := p
      obtain ⟨hfirst, hrest⟩ := List.forall_mem_cons.mp hfields
      exact Nat.max_lt.mpr ⟨hfirst, ih hrest⟩
  · cases elements with
    | none => exact hpos
    | some element => exact helements element rfl

end Schema

theorem Kind.ofName?_name (kind : Kind) : Kind.ofName? kind.name = some kind := by
  cases kind <;> rfl

namespace Schema

/-! ## Schemas with other defaults -/

mutual

def mapDefaults (change : Value → Value) : Schema → Schema
  | ⟨kind, description, fields, elements⟩ =>
    ⟨kind, description, mapDefaultsFields change fields, mapDefaultsElements change elements⟩
termination_by structural schema => schema

def mapDefaultsFields (change : Value → Value) : List (String × Field) → List (String × Field)
  | [] => []
  | (name, field) :: rest => (name, mapDefaultsField change field) :: mapDefaultsFields change rest
termination_by structural fields => fields

def mapDefaultsField (change : Value → Value) : Field → Field
  | ⟨schema, required, default, tags⟩ =>
    ⟨mapDefaults change schema, required, change default, tags⟩
termination_by structural field => field

def mapDefaultsElements (change : Value → Value) : Option Schema → Option Schema
  | none => none
  | some schema => some (mapDefaults change schema)
termination_by structural elements => elements

end

variable {change : Value → Value}

theorem mapDefaults_eq (schema : Schema) :
    schema.mapDefaults change =
      ⟨schema.kind, schema.description,
        schema.fields.map fun p => (p.1, mapDefaultsField change p.2),
        schema.elements.map (mapDefaults change)⟩ := by
  obtain ⟨kind, description, fields, elements⟩ := schema
  have hfields : mapDefaultsFields change fields =
      fields.map fun p => (p.1, mapDefaultsField change p.2) := by
    induction fields with
    | nil => rfl
    | cons p rest ih => rw [mapDefaultsFields, ih, List.map_cons]
  rw [mapDefaults, hfields]
  cases elements <;> rfl

theorem mapDefaultsField_eq (field : Field) :
    mapDefaultsField change field =
      ⟨field.schema.mapDefaults change, field.required, change field.default, field.tags⟩ := by
  obtain ⟨schema, required, default, tags⟩ := field
  rfl

theorem mapDefaults_self {schema : Schema}
    (hfields : ∀ p ∈ schema.fields, p.2.schema.mapDefaults change = p.2.schema ∧
      change p.2.default = p.2.default)
    (helements : ∀ element, schema.elements = some element → element.mapDefaults change = element) :
    schema.mapDefaults change = schema := by
  have hsame : (schema.fields.map fun p => (p.1, mapDefaultsField change p.2)) = schema.fields := by
    refine (List.map_congr_left fun p hp => ?_).trans (List.map_id _)
    obtain ⟨hschema, hdefault⟩ := hfields p hp
    rw [mapDefaultsField_eq, hschema, hdefault]
    rfl
  have hsame' : schema.elements.map (mapDefaults change) = schema.elements := by
    cases helement : schema.elements with
    | none => rfl
    | some element => exact congrArg some (helements element helement)
  rw [mapDefaults_eq, hsame, hsame']
  cases schema
  rfl

theorem mapDefaults_id (schema : Schema) : schema.mapDefaults id = schema := by
  induction schema using Schema.inductionOn with
  | step schema ihfields ihelements =>
    exact mapDefaults_self (fun p hp => ⟨ihfields p hp, rfl⟩) ihelements

end Schema

namespace Decode

open Schema (mapDefaults mapDefaultsField)

variable {medium : Medium} {room : Nat} {change : Value → Value}

/-! ## Scalars of a document -/

theorem tagsFrom_texts (index : Nat) (tags : List String) :
    tagsFrom medium index (tags.map .str) = tags.map Except.ok := by
  induction tags generalizing index with
  | nil => rfl
  | cons tag rest ih =>
    rw [List.map_cons, List.map_cons, tagsFrom, ih]
    rfl

theorem tags_shown (found : List String) :
    Members.read "tags" (.ok []) (tags medium) (shown found.isEmpty (.array (found.map .str))) =
      .ok found := by
  cases found with
  | nil => rfl
  | cons tag rest =>
    have hitems : (Json.array ((tag :: rest).map .str)).toValue =
        .list ((tag :: rest).map .str) := by
      show Value.list (Json.itemValues _) = _
      rw [Json.itemValues_eq, List.map_map]
      rfl
    show (tags medium (Json.array ((tag :: rest).map .str)).toValue).under _ = _
    rw [hitems]
    show (Checked.all (tagsFrom medium 0 ((tag :: rest).map .str))).under _ = _
    rw [tagsFrom_texts, Checked.all_map_ok]
    rfl

theorem text_shown (name text : String) :
    Members.read name (.ok "") (Reading.text medium) (shown (text == "") (.str text)) =
      .ok text := by
  by_cases h : text = ""
  · subst h
    rfl
  · have hfalse : (text == "") = false := by simpa using h
    rw [hfalse]
    rfl

theorem boolean_shown (b : Bool) :
    Members.read "required" (.ok false) (Reading.boolean medium) (shown (!b) (.bool b)) =
      .ok b := by
  cases b <;> rfl

/-- A default as the document of a field shows it. -/
def shownDefault (default : Value) : Value :=
  (shown default.isNull (Schema.encodeDefault default)).getD .null

/-- A default is read again as it was, points in time from their texts. -/
theorem restore_shown {kind : Kind} {default : Value} (h : kind.HasDefault default) :
    restore (.str kind.name) (shownDefault default) = .ok default := by
  cases h with
  | absent => cases kind <;> rfl
  | boolean | string | integer => rfl
  | @number x hfinite =>
    have hdocument : (Schema.encodeDefault (.float x)).toValue = .float x := by
      show (if x.isFinite then Json.float x else .null).toValue = _
      rw [if_pos hfinite]
      rfl
    show restore (.str "number") (Schema.encodeDefault (.float x)).toValue = _
    rw [hdocument]
    rfl
  | @datetime d offset hoffset hminutes =>
    have hparse := Coercion.parseDateTime_rfc3339 (d := d) (by rw [hoffset]; rfl) hminutes
    have hsame : { d with offset := some offset } = d := by rw [← hoffset]
    rw [hsame] at hparse
    show restore (.str "datetime") (.str d.rfc3339) = _
    simp only [restore, hparse]

/-! ## Definitions -/

theorem inside_of_room (hroom : medium = .value → 0 < room) {α : Type} (part : Checked α) :
    inside medium room part = part := by
  cases medium with
  | json => rfl
  | value =>
    obtain ⟨n, rfl⟩ : ∃ n, room = n + 1 := ⟨room - 1, by have := hroom rfl; omega⟩
    rfl

theorem toSchema_eq_ok (hroom : medium = .value → 0 < room) {m : Members} {schema : Schema}
    (htype : m.type = some (.str schema.kind.name))
    (hdescription : m.description = shown (schema.description == "") (.str schema.description))
    (hfields : m.fields.getD (.ok []) = .ok schema.fields)
    (helements : m.elements.getD (.ok none) = .ok schema.elements) :
    m.toSchema medium room = .ok schema := by
  refine toSchema_eq_ok_iff.mpr ⟨?_, ?_, hfields, helements⟩
  · have htext : Reading.text medium (.str schema.kind.name) = .ok schema.kind.name := rfl
    rw [htype]
    show (inside medium room (Decode.kind medium (.str schema.kind.name))).under _ = _
    rw [inside_of_room hroom]
    simp only [Decode.kind, htext, Kind.ofName?_name]
    rfl
  · rw [hdescription, text_shown]

/-- The members of an object are put together again in their order. -/
theorem collect_eq_ok {fields : List (String × Field)} (h : (fields.map Prod.fst).Nodup) :
    collect (fields.map Except.ok) = .ok fields :=
  collect_eq_ok_iff.mpr ⟨fields, rfl, (Value.putMembers_nil_of_nodup h).symm⟩

theorem memberList_shown (hroom : medium = .value → 0 < room) {fields : List (String × Field)}
    (ih : ∀ p ∈ fields, fieldOf medium (room - 1) (.dict (Json.entries (Schema.encodeField p.2))) =
      .ok (mapDefaultsField change p.2)) :
    memberList medium room
        (fields.map fun p => (.str p.1, .dict (Json.entries (Schema.encodeField p.2)))) =
      (fields.map fun p => (p.1, mapDefaultsField change p.2)).map Except.ok := by
  rw [memberList_eq, List.map_map, List.map_map]
  refine List.map_congr_left fun p hp => ?_
  show member medium (.str p.1) (inside medium room (fieldOf medium (room - 1) _)) = _
  rw [inside_of_room hroom, ih p hp]
  rfl

theorem fieldsOf_shown (hroom : medium = .value → 0 < room) {fields : List (String × Field)}
    (hnames : (fields.map Prod.fst).Nodup)
    (ih : ∀ p ∈ fields, fieldOf medium (room - 1) (.dict (Json.entries (Schema.encodeField p.2))) =
      .ok (mapDefaultsField change p.2)) :
    ((shown fields.isEmpty (.object (Schema.encodeFields fields))).map
      (fieldsOf medium room)).getD (.ok []) =
        .ok (fields.map fun p => (p.1, mapDefaultsField change p.2)) := by
  cases fields with
  | nil => rfl
  | cons p rest =>
    have hsame : (((p :: rest).map fun p => (p.1, mapDefaultsField change p.2)).map
        Prod.fst).Nodup := by
      rw [List.map_map]
      exact hnames
    show fieldsOf medium room (Json.object (Schema.encodeFields (p :: rest))).toValue = _
    rw [Schema.toValue_encodeFields hnames]
    show collect (memberList medium room _) = _
    rw [memberList_shown hroom ih, collect_eq_ok hsame]

theorem elementsOf_shown (hroom : medium = .value → 0 < room) {elements : Option Schema}
    (ih : ∀ element, elements = some element →
      schemaOf medium (room - 1) element.encode.toValue = .ok (element.mapDefaults change)) :
    (elements.map fun element => elementsOf medium room element.encode.toValue).getD (.ok none) =
      .ok (elements.map (mapDefaults change)) := by
  cases elements with
  | none => rfl
  | some element =>
    have helement := ih element rfl
    rw [Schema.toValue_encode] at helement
    show elementsOf medium room element.encode.toValue = _
    rw [Schema.toValue_encode]
    show inside medium room ((schemaOf medium (room - 1) (.dict _)).map some) = _
    rw [inside_of_room hroom, helement]
    rfl

/-- What is found in front of other members makes up the schema. -/
theorem toSchema_of_parts (hroom : medium = .value → 0 < room) {schema : Schema}
    (hnames : (schema.fields.map Prod.fst).Nodup)
    (ihfields : ∀ p ∈ schema.fields,
      fieldOf medium (room - 1) (.dict (Json.entries (Schema.encodeField p.2))) =
        .ok (mapDefaultsField change p.2))
    (ihelements : ∀ element, schema.elements = some element →
      schemaOf medium (room - 1) element.encode.toValue = .ok (element.mapDefaults change))
    {rest : List (Value × Value)} {m : Members} (hrest : membersOf medium room rest = m)
    (htype : m.type = none) (hdescription : m.description = none) (hfields : m.fields = none)
    (helements : m.elements = none) :
    (membersOf medium room (Json.entries schema.encodeMembers ++ rest)).toSchema medium room =
      .ok (schema.mapDefaults change) := by
  rw [membersOf_schema schema hrest htype hdescription hfields helements, Schema.mapDefaults_eq]
  exact toSchema_eq_ok hroom rfl rfl (fieldsOf_shown hroom hnames ihfields)
    (elementsOf_shown hroom ihelements)

/-- Reading the documents of fields changes their defaults in one way, and the names of fields are
distinct. -/
inductive Restores (change : Value → Value) : Schema → Prop
  | intro {schema : Schema} (hnames : (schema.fields.map Prod.fst).Nodup)
      (hdefaults : ∀ p ∈ schema.fields,
        restore (.str p.2.schema.kind.name) (shownDefault p.2.default) = .ok (change p.2.default))
      (hfields : ∀ p ∈ schema.fields, Restores change p.2.schema)
      (helements : ∀ element, schema.elements = some element → Restores change element) :
      Restores change schema

/-- A schema is read back with the defaults that reading leaves, where there is room for its depth,
alone and as a member. -/
theorem of_encode_restored {schema : Schema} (h : Restores change schema)
    (hroom : medium = .value → schema.depth < room) :
    schemaOf medium room schema.encode.toValue = .ok (schema.mapDefaults change) ∧
      ∀ required default tags,
        restore (.str schema.kind.name) (shownDefault default) = .ok (change default) →
          fieldOf medium room (.dict (Json.entries
            (Schema.encodeField ⟨schema, required, default, tags⟩))) =
              .ok (mapDefaultsField change ⟨schema, required, default, tags⟩) := by
  induction h generalizing room with
  | @intro schema hnames hdefaults _ _ ihfields ihelements =>
    have hpos (hvalue : medium = .value) : 0 < room := by
      have hlt := hroom hvalue
      omega
    have hinner : ∀ p ∈ schema.fields,
        fieldOf medium (room - 1) (.dict (Json.entries (Schema.encodeField p.2))) =
          .ok (mapDefaultsField change p.2) := by
      intro p hp
      have hlt := Schema.depth_field_lt hp
      refine (ihfields p hp (fun hvalue => ?_)).2 _ _ _ (hdefaults p hp)
      have hlt' := hroom hvalue
      omega
    have helement : ∀ element, schema.elements = some element →
        schemaOf medium (room - 1) element.encode.toValue = .ok (element.mapDefaults change) := by
      intro element helement
      have hlt := Schema.depth_element_lt helement
      refine (ihelements element helement (fun hvalue => ?_)).1
      have hlt' := hroom hvalue
      omega
    constructor
    · rw [Schema.toValue_encode]
      have hnothing : membersOf medium room [] = {} := rfl
      have halone := toSchema_of_parts hpos hnames hinner helement hnothing rfl rfl rfl rfl
      rwa [List.append_nil] at halone
    · intro required default tags hdefault
      have hown : membersOf medium room
          (Json.entries (Schema.encodeOwn required default tags)) = _ :=
        membersOf_own required default tags
      have hmembers := membersOf_schema schema hown rfl rfl rfl rfl
      have hparts := toSchema_of_parts hpos hnames hinner helement hown rfl rfl rfl rfl
      rw [Schema.encodeField_eq, Json.entries_append]
      show Members.toField medium room true (membersOf medium room (_ ++ _)) = _
      refine toField_eq_ok_iff.mpr ⟨hparts, ?_⟩
      rw [hmembers]
      exact ⟨boolean_shown required, hdefault, tags_shown tags⟩

theorem restores_of_wellFormed {schema : Schema} (h : schema.WellFormed) : Restores id schema := by
  induction h with
  | intro hnames _ _ hdefaults _ _ ihfields ihelements =>
    exact .intro hnames (fun p hp => restore_shown (hdefaults p hp)) ihfields ihelements

/-- A schema is read back where there is room for its depth. -/
theorem of_encode {schema : Schema} (hschema : schema.WellFormed)
    (hroom : schema.depth < room) :
    schemaOf .value room schema.encode.toValue = .ok schema := by
  have hread : schemaOf .value room schema.encode.toValue = .ok (schema.mapDefaults id) :=
    (of_encode_restored (restores_of_wellFormed hschema) fun _ => hroom).1
  rwa [Schema.mapDefaults_id] at hread

end Decode

namespace Registry

/-! ## Derived schemas -/

/-- A derived schema is read back from its document, whatever limit there is on nesting that its
depth stays below. -/
theorem read_derived_schema [Text.Repertoire] {registry : Registry} {type : TypeExpr}
    {schema : Schema} (h : registry.derive type = .ok schema) :
    (∀ room, schema.depth < room →
        Decode.schemaOf .value room (Definition.schema schema).toValue = .ok schema) ∧
      (schema.depth < Decode.maxRoom →
        Definition.ofValue .schema (Definition.schema schema).toValue = .ok (.schema schema)) := by
  have hschema := (describes_of_derive h).wellFormed
  constructor
  · intro room hroom
    exact Decode.of_encode hschema hroom
  · intro hroom
    show (Decode.schemaOf .value Decode.maxRoom schema.encode.toValue).map Definition.schema = _
    rw [Decode.of_encode hschema hroom]
    rfl

/-- A record of an event: when it starts, unless it is said, and the rows of its seats. -/
def eventRef : RecordRef := ⟨2, .data, recordModule, "Event", false⟩

def eventClass : RecordClass :=
  let fields : List FieldDecl :=
    [⟨"StartsAt", .scalar .datetime, none,
      "default:\"2024-03-07T11:38:47.5+02:00\" tags:\"time,local\"", true, false⟩,
     ⟨"Seats", .array .list (.array .list (.scalar .int)), none,
      "required:\"true\" description:\"by row\"", true, false⟩]
  ⟨eventRef, [eventRef, .root], fields, some fields, []⟩

def events : Registry := ⟨initial.classes ++ [eventClass]⟩

/-- The schema of events, with a point in time as a default and arrays of arrays. -/
theorem read_derived_schema_events :
    ∃ schema, events.derive (.record eventRef) = .ok schema ∧ schema.depth = 3 ∧
      Decode.schemaOf .value 4 (Definition.schema schema).toValue = .ok schema ∧
      Definition.ofValue .schema (Definition.schema schema).toValue = .ok (.schema schema) := by
  have hdepth : (events.derive (.record eventRef)).toOption.map Schema.depth = some 3 := by
    decide +kernel
  cases hderive : events.derive (.record eventRef) with
  | error reason => rw [hderive] at hdepth; cases hdepth
  | ok schema =>
    rw [hderive] at hdepth
    have hschema : schema.depth = 3 := Option.some.inj hdepth
    obtain ⟨hroom, hmax⟩ := read_derived_schema hderive
    exact ⟨schema, rfl, hschema, hroom 4 (by omega), hmax (by rw [hschema]; decide)⟩

end Registry
end Schematic
