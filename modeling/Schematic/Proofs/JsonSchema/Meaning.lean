import Schematic.JsonSchema
import Schematic.Proofs.Schema.Revision
import Schematic.Proofs.Value.Decoded

/-!
What exported documents mean.  `Admits` reads a document by the keywords of JSON Schema, wherever it
comes from: each keyword is a condition on values of one form, and other members say nothing.  A
member that is null is there as far as a document is concerned, so validation by a schema agrees
with the document of the schema on values from which such members were dropped.

The induction is on the schema.  The members in front of those that a schema gives, and the own
members of a field among them, are no keywords; this is what keeps the statement true of the
documents of the parts.
-/

namespace Schematic
namespace JsonSchema

/-! ## The meaning of documents -/

inductive JsonType where
  | null
  | boolean
  | integer
  | number
  | string
  | array
  | object

namespace JsonType

def name : JsonType → String
  | .null => "null"
  | .boolean => "boolean"
  | .integer => "integer"
  | .number => "number"
  | .string => "string"
  | .array => "array"
  | .object => "object"

/-- The value is of a type.  A boolean is no number, and a float counts as an integer if its amount
is one. -/
inductive Holds : JsonType → Value → Prop
  | null : Holds .null .null
  | boolean (b : Bool) : Holds .boolean (.bool b)
  | integer (i : Int) : Holds .integer (.int i)
  | wholeFloat {x : Binary64} (h : x.IsIntegral) : Holds .integer (.float x)
  | integerNumber (i : Int) : Holds .number (.int i)
  | number (x : Binary64) : Holds .number (.float x)
  | string (s : String) : Holds .string (.str s)
  | array (items : List Value) : Holds .array (.list items)
  | object (entries : List (Value × Value)) : Holds .object (.dict entries)

def ofKind : Kind → JsonType
  | .boolean => .boolean
  | .string => .string
  | .integer => .integer
  | .number => .number
  | .datetime => .string
  | .object => .object
  | .array => .array

theorem name_injective {s t : JsonType} (h : s.name = t.name) : s = t := by
  cases s <;> cases t <;> first | rfl | exact absurd h (by decide)

end JsonType

/-- A document of JSON Schema admits a value. -/
inductive Admits : Json → Value → Prop
  | anything (value : Value) : Admits (.bool true) value
  | object {members : List (String × Json)} {value : Value}
      (htype : ∀ name, Json.member? "type" members = some (.str name) →
        ∃ t : JsonType, t.name = name ∧ t.Holds value)
      (hformat : Json.member? "format" members = some (.str "date-time") →
        ∀ text, value = .str text → ∃ d, Coercion.parseDateTime text = .ok d)
      (hproperties : ∀ properties, Json.member? "properties" members = some (.object properties) →
        ∀ entries, value = .dict entries → ∀ name document,
          Json.member? name properties = some document →
            ∀ x, Value.valueAt? name entries = some x → Admits document x)
      (hrequired : ∀ names, Json.member? "required" members = some (.array names) →
        ∀ entries, value = .dict entries → ∀ name, .str name ∈ names →
          ∃ x, Value.valueAt? name entries = some x)
      (hitems : ∀ document, Json.member? "items" members = some document →
        ∀ items, value = .list items → ∀ item ∈ items, Admits document item) :
      Admits (.object members) value

/-- The members that `Admits` looks at. -/
def keywords : List String := ["type", "format", "properties", "required", "items"]

/-- Members that say nothing of the values that are admitted. -/
def Silent (members : List (String × Json)) : Prop :=
  ∀ key ∈ keywords, Json.member? key members = none

/-! ## Looking up members -/

theorem member?_append (name : String) (front back : List (String × Json)) :
    Json.member? name (front ++ back) =
      (Json.member? name back).or (Json.member? name front) := by
  unfold Json.member?
  rw [List.reverse_append, List.find?_append, Option.map_or]

theorem member?_optional (key name : String) (absent : Bool) (json : Json) :
    Json.member? key (Schema.optionalMember name absent json) =
      if key = name ∧ absent = false then some json else none := by
  cases absent with
  | true => simp [Schema.optionalMember, Json.member?]
  | false =>
    by_cases hname : key = name
    · simp [Schema.optionalMember, Json.member?, hname]
    · have hne : ¬ name = key := fun heq => hname heq.symm
      simp [Schema.optionalMember, Json.member?, hname, hne]

theorem Silent.append {front back : List (String × Json)} (hfront : Silent front)
    (hback : Silent back) : Silent (front ++ back) := by
  intro key hkey
  rw [member?_append, hfront key hkey, hback key hkey]
  rfl

theorem silent_nil : Silent [] :=
  fun _ _ => rfl

theorem silent_optional {name : String} (h : name ∉ keywords) (absent : Bool) (json : Json) :
    Silent (Schema.optionalMember name absent json) := by
  intro key hkey
  rw [member?_optional, if_neg]
  rintro ⟨rfl, -⟩
  exact h hkey

theorem silent_own (default : Value) (tags : List String) : Silent (ownMembers default tags) :=
  (silent_optional (by decide) _ _).append (silent_optional (by decide) _ _)

theorem member?_eq_some_iff {members : List (String × Json)}
    (hnames : (members.map Prod.fst).Nodup) {name : String} {json : Json} :
    Json.member? name members = some json ↔ (name, json) ∈ members := by
  unfold Json.member?
  constructor
  · intro h
    obtain ⟨p, hp, rfl⟩ := Option.map_eq_some_iff.mp h
    obtain rfl : p.1 = name := by simpa using List.find?_some hp
    exact List.mem_reverse.mp (List.mem_of_find?_eq_some hp)
  · intro h
    have hreverse : (members.reverse.map Prod.fst).Nodup := by
      rw [List.map_reverse]
      exact List.nodup_reverse.mpr hnames
    show (members.reverse.find? fun p => p.1 == name).map Prod.snd = some json
    rw [Value.find?_of_nodup hreverse (List.mem_reverse.mpr h)]
    rfl

/-! ## The keywords of a schema -/

/-- The members that say what holds of the parts of a value. -/
def partMembers (schema : Schema) : List (String × Json) :=
  match schema.kind with
  | .object => objectMembers schema.fields (properties schema.fields)
  | .array => itemsMember schema.elements
  | _ => []

theorem schemaMembers_eq (schema : Schema) (own : List (String × Json)) :
    schemaMembers schema own =
      kindMembers schema.kind ++
        Schema.optionalMember "description" (schema.description == "") (.str schema.description) ++
          own ++ partMembers schema := by
  obtain ⟨kind, description, fields, elements⟩ := schema
  cases kind <;> rfl

theorem properties_eq (fields : List (String × Field)) :
    properties fields = fields.map fun p => (p.1, .object (fieldMembers p.2)) := by
  induction fields with
  | nil => rfl
  | cons p rest ih =>
    obtain ⟨name, field⟩ := p
    rw [properties, ih, List.map_cons]

theorem fieldMembers_eq (field : Field) :
    fieldMembers field = schemaMembers field.schema (ownMembers field.default field.tags) := by
  obtain ⟨schema, required, default, tags⟩ := field
  rfl

/-- Members that give the keywords of a schema, whatever else there is. -/
structure Renders (members : List (String × Json)) (schema : Schema) : Prop where
  type : Json.member? "type" members = some (.str (JsonType.ofKind schema.kind).name)
  format : Json.member? "format" members =
    if schema.kind = .datetime then some (.str "date-time") else none
  properties : Json.member? "properties" members =
    if schema.kind = .object ∧ schema.fields.isEmpty = false then
      some (.object (properties schema.fields))
    else none
  required : Json.member? "required" members =
    if schema.kind = .object ∧ (requiredNames schema.fields).isEmpty = false then
      some (.array ((requiredNames schema.fields).map .str))
    else none
  items : Json.member? "items" members =
    if schema.kind = .array then
      schema.elements.map fun element => .object (schemaMembers element [])
    else none

theorem renders_append {front own : List (String × Json)} (hfront : Silent front)
    (hown : Silent own) (schema : Schema) :
    Renders (front ++ schemaMembers schema own) schema := by
  have hdescription : Silent (Schema.optionalMember "description" (schema.description == "")
      (.str schema.description)) := silent_optional (by decide) _ _
  have hkeyword : ∀ key ∈ keywords, Json.member? key (front ++ schemaMembers schema own) =
      (Json.member? key (partMembers schema)).or (Json.member? key (kindMembers schema.kind)) := by
    intro key hkey
    rw [schemaMembers_eq, member?_append, member?_append, member?_append, member?_append,
      hfront key hkey, hown key hkey, hdescription key hkey, Option.or_none, Option.none_or,
      Option.none_or]
  constructor
  all_goals
    rw [hkeyword _ (by decide)]
    unfold partMembers
    cases schema.kind with
    | object =>
      simp only [objectMembers, member?_append, member?_optional]
      cases schema.fields.isEmpty <;> cases (requiredNames schema.fields).isEmpty <;> rfl
    | array => cases schema.elements <;> rfl
    | boolean | string | integer | number | datetime => rfl

theorem renders_fieldMembers (field : Field) : Renders (fieldMembers field) field.schema := by
  rw [fieldMembers_eq]
  exact renders_append silent_nil (silent_own _ _) _

/-! ## What a rendered schema admits -/

section Admits

variable {members : List (String × Json)} {schema : Schema} {value : Value}

/-- A value is of a kind if it is of the type and of the format of the kind. -/
theorem holds_iff {kind : Kind} (hdecoded : value.IsDecoded) :
    kind.Holds value ↔ (JsonType.ofKind kind).Holds value ∧
      (kind = .datetime →
        ∀ text, value = .str text → ∃ d, Coercion.parseDateTime text = .ok d) := by
  constructor
  · intro h
    cases h with
    | boolean b => exact ⟨.boolean b, nofun⟩
    | string s => exact ⟨.string s, nofun⟩
    | integer i => exact ⟨.integer i, nofun⟩
    | wholeFloat h => exact ⟨.wholeFloat h, nofun⟩
    | integerNumber i => exact ⟨.integerNumber i, nofun⟩
    | number x => exact ⟨.number x, nofun⟩
    | datetime d => cases hdecoded
    | timestamp h => exact ⟨.string _, fun _ text htext => Value.str.inj htext ▸ ⟨_, h⟩⟩
    | object hentries =>
      obtain ⟨rfl, -⟩ := hdecoded.entries hentries
      exact ⟨.object _, nofun⟩
    | array hitems =>
      obtain ⟨rfl, -⟩ := hdecoded.items hitems
      exact ⟨.array _, nofun⟩
  · rintro ⟨htype, hformat⟩
    cases kind with
    | boolean => cases htype with | boolean b => exact .boolean b
    | string => cases htype with | string s => exact .string s
    | integer =>
      cases htype with
      | integer i => exact .integer i
      | wholeFloat h => exact .wholeFloat h
    | number =>
      cases htype with
      | integerNumber i => exact .integerNumber i
      | number x => exact .number x
    | datetime =>
      cases htype with
      | string text =>
        obtain ⟨d, hd⟩ := hformat rfl text rfl
        exact .timestamp hd
    | object => cases htype with | object entries => exact .object rfl
    | array => cases htype with | array items => exact .array rfl

theorem Renders.holds (h : Renders members schema) (hadmits : Admits (.object members) value)
    (hdecoded : value.IsDecoded) : schema.kind.Holds value := by
  cases hadmits with
  | object htype hformat =>
    obtain ⟨t, hname, ht⟩ := htype _ h.type
    obtain rfl := JsonType.name_injective hname
    refine (holds_iff hdecoded).mpr ⟨ht, fun hkind => hformat ?_⟩
    rw [h.format, if_pos hkind]

theorem Renders.admits_scalar (h : Renders members schema) (hobject : schema.kind ≠ .object)
    (harray : schema.kind ≠ .array) (hholds : schema.kind.Holds value)
    (hdecoded : value.IsDecoded) : Admits (.object members) value := by
  obtain ⟨htype, hformat⟩ := (holds_iff hdecoded).mp hholds
  refine .object ?_ ?_ ?_ ?_ ?_
  · intro name hname
    rw [h.type] at hname
    exact ⟨_, Json.str.inj (Option.some.inj hname), htype⟩
  · intro hformatted
    refine hformat (not_not.mp fun hkind => ?_)
    rw [h.format, if_neg hkind] at hformatted
    cases hformatted
  · intro properties hproperties
    rw [h.properties, if_neg fun hboth => hobject hboth.1] at hproperties
    cases hproperties
  · intro names hnames
    rw [h.required, if_neg fun hboth => hobject hboth.1] at hnames
    cases hnames
  · intro document hdocument
    rw [h.items, if_neg harray] at hdocument
    cases hdocument

theorem mem_requiredNames {fields : List (String × Field)} {name : String} :
    name ∈ requiredNames fields ↔ ∃ p ∈ fields, p.2.required = true ∧ p.1 = name := by
  simp only [requiredNames, List.mem_map, List.mem_filter]
  constructor
  · rintro ⟨p, ⟨hp, hrequired⟩, hname⟩
    exact ⟨p, hp, hrequired, hname⟩
  · rintro ⟨p, hp, hrequired, hname⟩
    exact ⟨p, ⟨hp, hrequired⟩, hname⟩

theorem member?_properties_iff {fields : List (String × Field)}
    (hnames : (fields.map Prod.fst).Nodup) {name : String} {document : Json} :
    Json.member? name (properties fields) = some document ↔
      ∃ p ∈ fields, p.1 = name ∧ document = .object (fieldMembers p.2) := by
  have hdistinct : ((properties fields).map Prod.fst).Nodup := by
    rw [properties_eq, List.map_map]
    exact hnames
  rw [member?_eq_some_iff hdistinct, properties_eq, List.mem_map]
  constructor
  · rintro ⟨p, hp, heq⟩
    obtain ⟨rfl, rfl⟩ := Prod.mk.inj heq
    exact ⟨p, hp, rfl, rfl⟩
  · rintro ⟨p, hp, rfl, rfl⟩
    exact ⟨p, hp, rfl⟩

theorem isEmpty_eq_false_of_mem {α : Type} {a : α} {as : List α} (h : a ∈ as) :
    as.isEmpty = false :=
  List.isEmpty_eq_false_iff.mpr (List.ne_nil_of_mem h)

theorem Renders.admits_dict_iff (h : Renders members schema) (hkind : schema.kind = .object)
    (hnames : (schema.fields.map Prod.fst).Nodup) (entries : List (Value × Value)) :
    Admits (.object members) (.dict entries) ↔
      ∀ p ∈ schema.fields,
        (p.2.required = true → ∃ x, Value.valueAt? p.1 entries = some x) ∧
          ∀ x, Value.valueAt? p.1 entries = some x → Admits (.object (fieldMembers p.2)) x := by
  constructor
  · intro hadmits p hp
    cases hadmits with
    | object _ _ hproperties hrequired =>
      constructor
      · intro hneeded
        have hname : p.1 ∈ requiredNames schema.fields :=
          mem_requiredNames.mpr ⟨p, hp, hneeded, rfl⟩
        refine hrequired _ ?_ entries rfl p.1 (List.mem_map_of_mem hname)
        rw [h.required, if_pos ⟨hkind, isEmpty_eq_false_of_mem hname⟩]
      · intro x hx
        have hdocument : Json.member? p.1 (JsonSchema.properties schema.fields) =
            some (.object (fieldMembers p.2)) :=
          (member?_properties_iff hnames).mpr ⟨p, hp, rfl, rfl⟩
        refine hproperties _ ?_ entries rfl p.1 _ hdocument x hx
        rw [h.properties, if_pos ⟨hkind, isEmpty_eq_false_of_mem hp⟩]
  · intro hall
    refine .object ?_ ?_ ?_ ?_ ?_
    · intro name hname
      rw [h.type, hkind] at hname
      exact ⟨.object, Json.str.inj (Option.some.inj hname), .object entries⟩
    · intro _ text htext
      cases htext
    · intro found hfound _ hentries name document hdocument x hx
      obtain rfl := Value.dict.inj hentries
      rw [h.properties] at hfound
      split at hfound
      next =>
        obtain rfl := Json.object.inj (Option.some.inj hfound)
        obtain ⟨p, hp, rfl, rfl⟩ := (member?_properties_iff hnames).mp hdocument
        exact (hall p hp).2 x hx
      next => cases hfound
    · intro names hfound _ hentries name hname
      obtain rfl := Value.dict.inj hentries
      rw [h.required] at hfound
      split at hfound
      next =>
        obtain rfl := Json.array.inj (Option.some.inj hfound)
        obtain ⟨name', hname', heq⟩ := List.mem_map.mp hname
        obtain rfl := Json.str.inj heq
        obtain ⟨p, hp, hneeded, rfl⟩ := mem_requiredNames.mp hname'
        exact (hall p hp).1 hneeded
      next => cases hfound
    · intro _ _ _ hitems
      cases hitems

theorem Renders.admits_list_iff (h : Renders members schema) (hkind : schema.kind = .array)
    (items : List Value) :
    Admits (.object members) (.list items) ↔
      ∀ element, schema.elements = some element →
        ∀ item ∈ items, Admits (.object (schemaMembers element [])) item := by
  have hread : Json.member? "items" members =
      schema.elements.map fun element => .object (schemaMembers element []) := by
    rw [h.items, if_pos hkind]
  constructor
  · intro hadmits element helement
    cases hadmits with
    | object _ _ _ _ hitems =>
      refine hitems _ ?_ items rfl
      rw [hread, helement]
      rfl
  · intro hall
    refine .object ?_ ?_ ?_ ?_ ?_
    · intro name hname
      rw [h.type, hkind] at hname
      exact ⟨.array, Json.str.inj (Option.some.inj hname), .array items⟩
    · intro _ text htext
      cases htext
    · intro _ _ _ hentries
      cases hentries
    · intro _ _ _ hentries
      cases hentries
    · intro document hdocument items' hitems
      obtain rfl := Value.list.inj hitems
      rw [hread] at hdocument
      obtain ⟨element, helement, rfl⟩ := Option.map_eq_some_iff.mp hdocument
      exact hall element helement

end Admits

/-! ## Validation -/

theorem dropNulls_dict {schema : Schema} (hkind : schema.kind = .object)
    (hnames : (schema.fields.map Prod.fst).Nodup) (entries : List (Value × Value)) :
    ∃ kept, schema.dropNulls (.dict entries) = .dict kept ∧
      ∀ p ∈ schema.fields, Value.valueAt? p.1 kept =
        if (Value.lookup p.1 entries).isNull then none
        else some (p.2.schema.dropNulls (Value.lookup p.1 entries)) := by
  by_cases hopen : schema.fields = []
  · refine ⟨entries, Schema.revise_open hkind hopen, fun p hp => ?_⟩
    rw [hopen] at hp
    cases hp
  · refine ⟨_, Schema.revise_object hkind hopen, fun p hp => ?_⟩
    rw [Schema.valueAt?_withoutNulls hp, Schema.lookup_reviseEntries hnames hp, Schema.isNull_revise]
    rfl

theorem dropNulls_list {schema : Schema} (hkind : schema.kind = .array) (items : List Value) :
    ∃ kept, schema.dropNulls (.list items) = .list kept ∧
      ∀ element, schema.elements = some element → kept = items.map element.dropNulls := by
  unfold Schema.dropNulls
  rw [Schema.revise_array hkind]
  cases schema.elements with
  | none => exact ⟨items, rfl, nofun⟩
  | some element =>
    refine ⟨_, rfl, fun element' helement => ?_⟩
    obtain rfl := Option.some.inj helement
    rfl

theorem accepts_iff_admits {schema : Schema} (hnames : schema.DistinctNames)
    {members : List (String × Json)} (h : Renders members schema) {value : Value}
    (hdecoded : value.IsDecoded) :
    schema.Accepts value ↔ Admits (.object members) (schema.dropNulls value) := by
  induction schema using Schema.inductionOn generalizing members value with
  | step schema ihfields ihelements =>
    cases schema.kind.shape value with
    | other hholds =>
      have hsame : schema.dropNulls value = value := Schema.revise_of_not_holds hholds
      rw [hsame]
      exact iff_of_false (fun haccepts => hholds haccepts.holds)
        fun hadmits => hholds (h.holds hadmits hdecoded)
    | scalar hobject harray hholds =>
      have hsame : schema.dropNulls value = value := Schema.revise_scalar hobject harray
      rw [hsame]
      exact iff_of_true (.scalar hobject harray hholds)
        (h.admits_scalar hobject harray hholds hdecoded)
    | @object entries hkind hentries =>
      obtain ⟨rfl, hvalues⟩ := hdecoded.entries hentries
      obtain ⟨kept, hdrop, hread⟩ := dropNulls_dict hkind hnames.nodup entries
      rw [hdrop, Schema.accepts_object_iff hkind hentries, h.admits_dict_iff hkind hnames.nodup]
      refine forall₂_congr fun p hp => ?_
      unfold Field.Satisfied
      rw [hread p hp]
      -- A null is dropped, so that only `required` can speak of it; any other value stays, and its
      -- document is that of a smaller schema.
      by_cases hnull : Value.lookup p.1 entries = .null
      · rw [hnull]
        simp [Value.isNull]
      · obtain ⟨e, he, hvalue⟩ := Value.valueAt?_mem (Value.valueAt?_of_lookup hnull)
        have hmember := ihfields p hp (hnames.field hp) (renders_fieldMembers p.2)
          (hvalue ▸ hvalues e he)
        rw [Value.isNull_eq_false hnull, hmember]
        simp [hnull]
    | @array items hkind hitems =>
      obtain ⟨rfl, hall⟩ := hdecoded.items hitems
      obtain ⟨kept, hdrop, hmap⟩ := dropNulls_list hkind items
      rw [hdrop, Schema.accepts_array_iff hkind hitems, h.admits_list_iff hkind]
      refine forall₂_congr fun element helement => ?_
      rw [hmap element helement, List.forall_mem_map]
      refine forall₂_congr fun item hitem => ?_
      exact ihelements element helement (hnames.element helement)
        (renders_append silent_nil silent_nil element) (hall item hitem)

/-- A definition of one of the kinds has a document, and validation of a decoded value succeeds if
and only if the document admits the value without the declared members that are null. -/
theorem document_meaning {d : Definition} {schema : Schema} (hschema : d.schema? = some schema)
    (hnames : schema.DistinctNames) (title : String) (withDialect : Bool) :
    ∃ json, document d title withDialect = .ok json ∧
      ∀ value : Value, value.IsDecoded →
        (d.validate value = .ok () ↔ Admits json (schema.dropNulls value)) := by
  have hfront : Silent (Schema.optionalMember "$schema" (!withDialect) (.str dialect) ++
      Schema.optionalMember "title" (title == "") (.str title)) :=
    (silent_optional (by decide) _ _).append (silent_optional (by decide) _ _)
  have hvalidate : ∀ value, d.validate value = schema.validate value := by
    intro value
    rw [Definition.validate, hschema]
  obtain ⟨own, hown, hmembers⟩ : ∃ own, Silent own ∧
      definitionMembers d = .ok (schemaMembers schema own) := by
    cases d with
    | schema declared =>
      obtain rfl := Option.some.inj hschema
      exact ⟨[], silent_nil, rfl⟩
    | field field =>
      obtain rfl := Option.some.inj hschema
      exact ⟨_, silent_own _ _, congrArg Except.ok (fieldMembers_eq field)⟩
    | unchecked kind description =>
      refine ⟨[], silent_nil, ?_⟩
      rw [definitionMembers, hschema]
  refine ⟨_, by rw [document, hmembers]; rfl, fun value hdecoded => ?_⟩
  rw [hvalidate, Schema.validate_eq_ok_iff]
  exact accepts_iff_admits hnames (renders_append hfront hown schema) hdecoded

def visit : Schema :=
  .objectOf [("at", ⟨.ofKind .datetime, true, .null, []⟩),
    ("notes", ⟨.arrayOf (.ofKind .string), false, .null, ["text"]⟩)]

theorem distinctNames_visit : visit.DistinctNames := by
  have hfields : ∀ p ∈ visit.fields,
      p.2.schema.WellFormed ∧ p.2.schema.kind.HasDefault p.2.default := by
    intro p hp
    rcases List.mem_cons.mp hp with rfl | hp
    · exact ⟨Schema.wellFormed_ofKind _, .absent _⟩
    · obtain rfl := List.mem_singleton.mp hp
      exact ⟨Schema.wellFormed_arrayOf (Schema.wellFormed_ofKind _), .absent _⟩
  exact (Schema.wellFormed_objectOf (by decide) hfields).distinctNames

/-- The document of visits admits one whose notes are null once they are dropped, and it means the
same as validation for whatever is decoded. -/
theorem document_meaning_visit :
    ∃ json, document (.schema visit) "Visit" true = .ok json ∧
      Admits json (visit.dropNulls
        (.dict [(.str "at", .str "2024-03-07T11:38:47Z"), (.str "notes", .null)])) ∧
      ∀ text value, decode text = .ok value →
        ((Definition.schema visit).validate value = .ok () ↔
          Admits json (visit.dropNulls value)) := by
  obtain ⟨json, hjson, hmeaning⟩ :=
    document_meaning (d := .schema visit) rfl distinctNames_visit "Visit" true
  refine ⟨json, hjson, ?_, fun text value hdecode => hmeaning value (isDecoded_of_decode hdecode)⟩
  refine (hmeaning _ (.dict ?_ ?_)).mp (by decide +kernel)
  · simp
  · simp [Value.IsDecoded.str, Value.IsDecoded.null]

end JsonSchema
end Schematic
