import Mathlib.Data.List.Perm.Subperm
import Schematic.Proofs.Derivation.Stability
import Schematic.Proofs.JsonSchema.Meaning
import Schematic.Proofs.Schema.RoundTrip
import Schematic.Proofs.Value.Storable
import Schematic.Schema.Equality

/-!
Exported documents tell derived schemas apart.  Documents can be compared as texts are, with
their members in order, or as dictionaries, where neither the order of members nor the sign of
a zero counts.  A `Comparison` lists what equality of documents has to tell about their parts;
the induction over schemas is done once for all comparisons, and what it yields is equality of
the schemas up to what the comparison overlooks.
-/

namespace Schematic

/-- Two schemas with the same parts, at every depth, when names of fields are compared by `names`
and defaults by `defaults`. -/
inductive Schema.AlikeUpTo (names : List String → List String → Prop)
    (defaults : Value → Value → Prop) : Schema → Schema → Prop
  | intro {s t : Schema} (hkind : s.kind = t.kind) (hdescription : s.description = t.description)
      (hnames : names (s.fields.map Prod.fst) (t.fields.map Prod.fst))
      (hrequired : ∀ p ∈ s.fields, ∀ q ∈ t.fields, p.1 = q.1 → p.2.required = q.2.required)
      (hdefaults : ∀ p ∈ s.fields, ∀ q ∈ t.fields, p.1 = q.1 → defaults p.2.default q.2.default)
      (htags : ∀ p ∈ s.fields, ∀ q ∈ t.fields, p.1 = q.1 → p.2.tags = q.2.tags)
      (hfields : ∀ p ∈ s.fields, ∀ q ∈ t.fields, p.1 = q.1 →
        AlikeUpTo names defaults p.2.schema q.2.schema)
      (hopen : s.elements.isSome = t.elements.isSome)
      (helements : ∀ a b, s.elements = some a → t.elements = some b →
        AlikeUpTo names defaults a b) :
      AlikeUpTo names defaults s t

/-- A value is the same, or a float of the same amount.  The offset of a point in time counts. -/
def Value.SameAmount (v w : Value) : Prop :=
  v = w ∨ ∃ x y, v = .float x ∧ w = .float y ∧ x.numEq y = true

namespace Schema.AlikeUpTo

variable {s t : Schema}

theorem eq_of_names (h : AlikeUpTo Eq Eq s t) : s = t := by
  induction h with
  | @intro s t hkind hdescription hnames hrequired hdefaults htags _ hopen _ ihfields ihelements =>
    obtain ⟨kind, description, fields, elements⟩ := s
    obtain ⟨kind', description', fields', elements'⟩ := t
    obtain rfl : kind = kind' := hkind
    obtain rfl : description = description' := hdescription
    have hfields : fields = fields' := by
      have hlength : fields.length = fields'.length := by
        simpa using congrArg List.length hnames
      refine List.ext_getElem hlength fun i hi hi' => ?_
      have hp := List.getElem_mem hi
      have hq := List.getElem_mem hi'
      have hname : fields[i].1 = fields'[i].1 := by
        simpa [hi, hi'] using congrArg (·[i]?) hnames
      refine Prod.ext hname ?_
      have hschema := ihfields _ hp _ hq hname
      have hdefault := hdefaults _ hp _ hq hname
      have hneeded := hrequired _ hp _ hq hname
      have hlabels := htags _ hp _ hq hname
      generalize fields[i].2 = field, fields'[i].2 = field' at *
      obtain ⟨schema, required, default, tags⟩ := field
      obtain ⟨schema', required', default', tags'⟩ := field'
      simp_all
    have helements : elements = elements' := by
      cases elements with
      | none => cases elements' with
        | none => rfl
        | some b => cases hopen
      | some a => cases elements' with
        | none => cases hopen
        | some b => rw [ihelements a b rfl rfl]
    rw [hfields, helements]

end Schema.AlikeUpTo

namespace JsonSchema

/-! ## Comparing documents -/

/-- What an equality of documents tells about their parts. -/
structure Comparison (equal : Json → Json → Prop) (names : List String → List String → Prop)
    (defaults : Value → Value → Prop) : Prop where
  text {a b : String} : equal (.str a) (.str b) → a = b
  texts {as bs : List String} :
    equal (.array (as.map .str)) (.array (bs.map .str)) → as = bs
  members {ms ms' : List (String × Json)} : (ms.map Prod.fst).Nodup → (ms'.map Prod.fst).Nodup →
    equal (.object ms) (.object ms') → names (ms.map Prod.fst) (ms'.map Prod.fst) ∧
      ∀ key, Option.Rel equal (Json.member? key ms) (Json.member? key ms')
  noNames : names [] []
  default {kind : Kind} {v w : Value} : kind.HasDefault v → kind.HasDefault w → v ≠ .null →
    w ≠ .null → equal (defaultJson v) (defaultJson w) → defaults v w
  noDefault : defaults .null .null

theorem rfc3339_injective {d e : DateTime} {offset offset' : Time.Offset}
    (hd : d.offset = some offset) (hoffset : offset.IsWholeMinutes)
    (he : e.offset = some offset') (hoffset' : offset'.IsWholeMinutes)
    (h : d.rfc3339 = e.rfc3339) : d = e := by
  have hread := Coercion.parseDateTime_rfc3339 (d := d) (by rw [hd]; rfl) hoffset
  have hread' := Coercion.parseDateTime_rfc3339 (d := e) (by rw [he]; rfl) hoffset'
  rw [← hd] at hread
  rw [← he] at hread'
  rw [h, hread'] at hread
  exact (Except.ok.inj hread).symm

/-- Equality of documents with their members in order. -/
theorem comparison_eq : Comparison Eq Eq Eq where
  text h := Json.str.inj h
  texts h := List.map_injective_iff.mpr (fun _ _ => Json.str.inj) (Json.array.inj h)
  members _ _ h := by
    obtain rfl := Json.object.inj h
    refine ⟨rfl, fun key => ?_⟩
    cases Json.member? key _ with
    | none => exact .none
    | some json => exact .some rfl
  noNames := rfl
  default hv hw hpresent hpresent' h := by
    cases hv with
    | absent => exact absurd rfl hpresent
    | boolean b =>
      cases hw with
      | absent => exact absurd rfl hpresent'
      | boolean b' => exact congrArg Value.bool (Json.bool.inj h)
    | string s =>
      cases hw with
      | absent => exact absurd rfl hpresent'
      | string s' => exact congrArg Value.str (Json.str.inj h)
    | integer i =>
      cases hw with
      | absent => exact absurd rfl hpresent'
      | integer i' => exact congrArg Value.int (Json.int.inj h)
    | number _ =>
      cases hw with
      | absent => exact absurd rfl hpresent'
      | number _ => exact congrArg Value.float (Json.float.inj h)
    | datetime hoffset hminutes =>
      cases hw with
      | absent => exact absurd rfl hpresent'
      | datetime hoffset' hminutes' =>
        exact congrArg Value.datetime
          (rfc3339_injective hoffset hminutes hoffset' hminutes' (Json.str.inj h))
  noDefault := rfl

/-- Equality of documents as the values they denote. -/
def SameValue (a b : Json) : Prop :=
  a.toValue.same b.toValue = true

theorem eq_of_sameTexts {as bs : List String}
    (h : SameValue (.array (as.map .str)) (.array (bs.map .str))) : as = bs := by
  have hitems : Value.sameItems (as.map .str) (bs.map .str) = true := by
    have hvalues (texts : List String) :
        (Json.array (texts.map .str)).toValue = .list (texts.map .str) := by
      rw [Json.toValue, Json.itemValues_eq, List.map_map]
      rfl
    rw [SameValue, hvalues, hvalues] at h
    exact h
  clear h
  induction as generalizing bs with
  | nil => cases bs with
    | nil => rfl
    | cons b bs => cases hitems
  | cons a as ih => cases bs with
    | nil => cases hitems
    | cons b bs =>
      obtain ⟨hfirst, hrest⟩ := Bool.and_eq_true_iff.mp hitems
      rw [(Value.same_name a b).mp hfirst, ih hrest]

section Members

variable {ms ms' : List (String × Json)}

theorem sameEntries_iff : Value.sameEntries (Json.entries ms) (Json.entries ms') = true ↔
    ∀ p ∈ ms, ∃ q ∈ ms', p.1 = q.1 ∧ SameValue p.2 q.2 := by
  induction ms with
  | nil => exact iff_of_true rfl nofun
  | cons p rest ih =>
    have hany : ((Json.entries ms').any fun e =>
        Value.same (.str p.1) e.1 && Value.same p.2.toValue e.2) = true ↔
          ∃ q ∈ ms', p.1 = q.1 ∧ SameValue p.2 q.2 := by
      rw [Json.entries, List.any_map, List.any_eq_true]
      refine exists_congr fun q => and_congr_right fun _ => ?_
      exact Bool.and_eq_true_iff.trans (and_congr_left fun _ => Value.same_name _ _)
    rw [List.forall_mem_cons, ← ih, ← hany]
    exact Bool.and_eq_true_iff

/-- Equal dictionaries have the same names, and equal values under each. -/
theorem sameValue_object (hnodup : (ms.map Prod.fst).Nodup) (hnodup' : (ms'.map Prod.fst).Nodup)
    (h : SameValue (.object ms) (.object ms')) :
    (ms.map Prod.fst).Perm (ms'.map Prod.fst) ∧
      ∀ key, Option.Rel SameValue (Json.member? key ms) (Json.member? key ms') := by
  rw [SameValue, Json.toValue_object hnodup, Json.toValue_object hnodup'] at h
  obtain ⟨hlength, hentries⟩ := Bool.and_eq_true_iff.mp h
  have hpartner := sameEntries_iff.mp hentries
  have hnames : (ms.map Prod.fst).Perm (ms'.map Prod.fst) := by
    have hsub : ms.map Prod.fst ⊆ ms'.map Prod.fst := by
      intro name hname
      obtain ⟨p, hp, rfl⟩ := List.mem_map.mp hname
      obtain ⟨q, hq, hkey, -⟩ := hpartner p hp
      exact hkey ▸ List.mem_map_of_mem hq
    refine (List.subperm_of_subset hnodup hsub).perm_of_length_le ?_
    have hlengths : ms.length = ms'.length := by simpa [Json.entries] using hlength
    rw [List.length_map, List.length_map, hlengths]
  refine ⟨hnames, fun key => ?_⟩
  cases hmember : Json.member? key ms with
  | some json =>
    obtain ⟨q, hq, hkey, hsame⟩ := hpartner _ ((member?_eq_some_iff hnodup).mp hmember)
    obtain rfl : key = q.1 := hkey
    rw [(member?_eq_some_iff hnodup').mpr hq]
    exact .some hsame
  | none =>
    have hnone : Json.member? key ms' = none := by
      rw [Option.eq_none_iff_forall_ne_some]
      intro json hjson
      have hkey : key ∈ ms.map Prod.fst :=
        hnames.mem_iff.mpr (List.mem_map_of_mem ((member?_eq_some_iff hnodup').mp hjson))
      obtain ⟨p, hp, rfl⟩ := List.mem_map.mp hkey
      rw [(member?_eq_some_iff hnodup).mpr hp] at hmember
      cases hmember
    rw [hnone]
    exact .none

end Members

/-- Equality of documents as dictionaries. -/
theorem comparison_sameValue : Comparison SameValue List.Perm Value.SameAmount where
  text h := (Value.same_name _ _).mp h
  texts h := eq_of_sameTexts h
  members hnodup hnodup' h := sameValue_object hnodup hnodup' h
  noNames := .nil
  default hv hw hpresent hpresent' h := by
    cases hv with
    | absent => exact absurd rfl hpresent
    | boolean b =>
      cases hw with
      | absent => exact absurd rfl hpresent'
      | boolean b' => cases b <;> cases b' <;> first | exact .inl rfl | cases h
    | string s =>
      cases hw with
      | absent => exact absurd rfl hpresent'
      | string s' => exact .inl (congrArg Value.str ((Value.same_name s s').mp h))
    | integer i =>
      cases hw with
      | absent => exact absurd rfl hpresent'
      | integer i' => exact .inl (congrArg Value.int (beq_iff_eq.mp h))
    | number _ =>
      cases hw with
      | absent => exact absurd rfl hpresent'
      | number _ => exact .inr ⟨_, _, rfl, rfl, h⟩
    | datetime hoffset hminutes =>
      cases hw with
      | absent => exact absurd rfl hpresent'
      | datetime hoffset' hminutes' =>
        exact .inl (congrArg Value.datetime (rfc3339_injective hoffset hminutes hoffset' hminutes'
          ((Value.same_name _ _).mp h)))
  noDefault := .inl rfl

/-! ## What the document of a schema shows -/

/-- Members that show a schema: its keywords and its description, each under a name of its
own. -/
structure Shows (members : List (String × Json)) (schema : Schema) : Prop where
  nodup : (members.map Prod.fst).Nodup
  renders : Renders members schema
  description : Json.member? "description" members =
    if schema.description = "" then none else some (.str schema.description)

/-- The names that the members of a document can have, in order. -/
def memberNames : List String :=
  ["$schema", "title", "type", "format", "description", "default", "x-tags", "properties",
    "required", "items"]

theorem kindMembers_names (kind : Kind) :
    ((kindMembers kind).map Prod.fst).Sublist ["type", "format"] := by
  cases kind <;> decide

theorem partMembers_names (schema : Schema) :
    ((partMembers schema).map Prod.fst).Sublist ["properties", "required", "items"] := by
  unfold partMembers
  cases schema.kind with
  | object =>
    rw [objectMembers, List.map_append]
    exact ((Schema.optionalMember_names _ _ _).append (Schema.optionalMember_names _ _ _)).trans
      (by decide)
  | array =>
    cases schema.elements with
    | none => exact List.nil_sublist _
    | some element => exact List.singleton_sublist.mpr (show "items" ∈ _ by decide)
  | boolean | string | integer | number | datetime => exact List.nil_sublist _

theorem member?_eq_none {members : List (String × Json)} {key : String}
    (h : key ∉ members.map Prod.fst) : Json.member? key members = none := by
  rw [Json.member?, Option.map_eq_none_iff, List.find?_eq_none]
  intro p hp hkey
  exact h (beq_iff_eq.mp hkey ▸ List.mem_map_of_mem (List.mem_reverse.mp hp))

/-- Members whose names are among some that a key is not among. -/
theorem member?_of_names {members : List (String × Json)} {among : List String}
    (hnames : (members.map Prod.fst).Sublist among) {key : String} (hkey : key ∉ among) :
    Json.member? key members = none :=
  member?_eq_none fun hmem => hkey (hnames.subset hmem)

section Own

variable (front own : List (String × Json))
  (hfront : (front.map Prod.fst).Sublist ["$schema", "title"])
  (hown : (own.map Prod.fst).Sublist ["default", "x-tags"])
include hfront hown

theorem shows_append (schema : Schema) : Shows (front ++ schemaMembers schema own) schema where
  nodup := by
    have hnames : ((front ++ schemaMembers schema own).map Prod.fst).Sublist memberNames := by
      rw [schemaMembers_eq, List.map_append, List.map_append, List.map_append, List.map_append]
      exact hfront.append ((((kindMembers_names _).append
        (Schema.optionalMember_names _ _ _)).append hown).append (partMembers_names _))
    exact hnames.nodup (by decide)
  renders := by
    have hkeywords : ∀ key ∈ keywords,
        key ∉ ["$schema", "title"] ∧ key ∉ ["default", "x-tags"] := by decide
    exact renders_append (fun key hkey => member?_of_names hfront (hkeywords key hkey).1)
      (fun key hkey => member?_of_names hown (hkeywords key hkey).2) schema
  description := by
    rw [schemaMembers_eq, member?_append, member?_append, member?_append, member?_append,
      member?_of_names hfront (by decide), member?_of_names hown (by decide),
      member?_of_names (partMembers_names schema) (by decide),
      member?_of_names (kindMembers_names _) (by decide), member?_optional]
    by_cases hempty : schema.description = ""
    · simp [hempty]
    · simp [hempty]

end Own

theorem ownMembers_names (default : Value) (tags : List String) :
    ((ownMembers default tags).map Prod.fst).Sublist ["default", "x-tags"] := by
  rw [ownMembers, List.map_append]
  exact (Schema.optionalMember_names _ _ _).append (Schema.optionalMember_names _ _ _)

theorem shows_schema (schema : Schema) : Shows (schemaMembers schema []) schema :=
  shows_append [] [] (List.nil_sublist _) (List.nil_sublist _) schema

theorem shows_field (field : Field) : Shows (fieldMembers field) field.schema := by
  rw [fieldMembers_eq]
  exact shows_append [] _ (List.nil_sublist _) (ownMembers_names _ _) _

theorem member?_own {key : String} (hkey : key ∈ ["default", "x-tags"]) (field : Field) :
    Json.member? key (fieldMembers field) =
      Json.member? key (ownMembers field.default field.tags) := by
  have hother : ∀ key ∈ ["default", "x-tags"], key ∉ ["type", "format"] ∧
      key ∉ ["description"] ∧ key ∉ ["properties", "required", "items"] := by decide
  obtain ⟨hkind, hdescription, hpart⟩ := hother key hkey
  rw [fieldMembers_eq, schemaMembers_eq, member?_append, member?_append, member?_append,
    member?_of_names (partMembers_names _) hpart, member?_of_names (kindMembers_names _) hkind,
    member?_of_names (Schema.optionalMember_names "description" _ _) hdescription]
  simp

theorem member?_default (field : Field) : Json.member? "default" (fieldMembers field) =
    if field.default.isNull = true then none else some (defaultJson field.default) := by
  rw [member?_own (by decide), ownMembers, member?_append, member?_optional, member?_optional]
  cases field.default.isNull <;> simp

theorem member?_tags (field : Field) : Json.member? "x-tags" (fieldMembers field) =
    if field.tags = [] then none else some (.array (field.tags.map .str)) := by
  rw [member?_own (by decide), ownMembers, member?_append, member?_optional, member?_optional]
  cases field.tags <;> simp

/-! ## Schemas told apart -/

section Parts

variable {schema : Schema} (h : schema.WellFormed)
include h

theorem fields_eq_nil (hkind : schema.kind ≠ .object) : schema.fields = [] := by
  cases h with
  | intro _ hobject => exact by_contra fun hfields => hkind (hobject hfields)

theorem elements_eq_none (hkind : schema.kind ≠ .array) : schema.elements = none := by
  cases h with
  | intro _ _ harray => exact by_contra fun helements => hkind (harray helements)

theorem required_iff {p : String × Field} (hp : p ∈ schema.fields) :
    p.2.required = true ↔ p.1 ∈ requiredNames schema.fields := by
  rw [mem_requiredNames]
  refine ⟨fun hrequired => ⟨p, hp, hrequired, rfl⟩, ?_⟩
  rintro ⟨q, hq, hrequired, hname⟩
  exact List.inj_on_of_nodup_map h.nodup hq hp hname ▸ hrequired

end Parts

section Equal

variable {equal : Json → Json → Prop} {names : List String → List String → Prop}
  {defaults : Value → Value → Prop}

/-- Two members that may be left out. -/
theorem rel_ite {a b : Prop} [Decidable a] [Decidable b] {x y : Json}
    (h : Option.Rel equal (if a then none else some x) (if b then none else some y)) :
    (a ↔ b) ∧ (¬ a → equal x y) := by
  by_cases ha : a <;> by_cases hb : b <;> simp only [ha, hb, if_true, if_false] at h
  · exact ⟨iff_of_true ha hb, fun hno => absurd ha hno⟩
  · cases h
  · cases h
  · cases h with
    | some hxy => exact ⟨iff_of_false ha hb, fun _ => hxy⟩

variable {ms ms' : List (String × Json)} {s t : Schema} (C : Comparison equal names defaults)
  (hms : Shows ms s) (hms' : Shows ms' t)
  (hmembers : ∀ key, Option.Rel equal (Json.member? key ms) (Json.member? key ms'))
include C hms hms' hmembers

theorem kind_eq : s.kind = t.kind := by
  have htype := hmembers "type"
  rw [hms.renders.type, hms'.renders.type] at htype
  have hname : JsonType.ofKind s.kind = JsonType.ofKind t.kind := by
    cases htype with
    | some h => exact JsonType.name_injective (C.text h)
  have hformat := hmembers "format"
  rw [hms.renders.format, hms'.renders.format, ← ite_not, ← ite_not (t.kind = .datetime)]
    at hformat
  have hdatetime := not_iff_not.mp (rel_ite hformat).1
  revert hname hdatetime
  cases s.kind <;> cases t.kind <;> simp [JsonType.ofKind]

theorem description_eq : s.description = t.description := by
  have hdescription := hmembers "description"
  rw [hms.description, hms'.description] at hdescription
  obtain ⟨hiff, htext⟩ := rel_ite hdescription
  by_cases hempty : s.description = ""
  · rw [hempty, hiff.mp hempty]
  · exact C.text (htext hempty)

theorem requiredNames_eq (hkind : s.kind = .object) :
    requiredNames s.fields = requiredNames t.fields := by
  have hkind' : t.kind = .object := kind_eq C hms hms' hmembers ▸ hkind
  have hrequired := hmembers "required"
  rw [hms.renders.required, hms'.renders.required, ← ite_not,
    ← ite_not (t.kind = .object ∧ (requiredNames t.fields).isEmpty = false)] at hrequired
  obtain ⟨hiff, htexts⟩ := rel_ite hrequired
  simp only [hkind, hkind', true_and, Bool.not_eq_false, List.isEmpty_iff] at hiff htexts
  by_cases hempty : requiredNames s.fields = []
  · rw [hempty, hiff.mp hempty]
  · exact C.texts (htexts hempty)

/-- Fields of one name are both required or neither. -/
theorem required_eq (hs : s.WellFormed) (ht : t.WellFormed) {p q : String × Field}
    (hp : p ∈ s.fields) (hq : q ∈ t.fields) (hname : p.1 = q.1) :
    p.2.required = q.2.required := by
  have hobject : s.kind = .object :=
    by_contra fun hno => List.ne_nil_of_mem hp (fields_eq_nil hs hno)
  rw [Bool.eq_iff_iff, required_iff hs hp, required_iff ht hq, hname,
    requiredNames_eq C hms hms' hmembers hobject]

/-- The documents of the fields, when there are any. -/
theorem properties_rel (hs : s.WellFormed) (ht : t.WellFormed) :
    (s.fields = [] ↔ t.fields = []) ∧
      (s.fields ≠ [] → equal (.object (properties s.fields)) (.object (properties t.fields))) := by
  have hkinds := kind_eq C hms hms' hmembers
  by_cases hkind : s.kind = .object
  case neg =>
    have hnil := fields_eq_nil hs hkind
    have hnil' := fields_eq_nil ht (hkinds ▸ hkind)
    exact ⟨iff_of_true hnil hnil', fun hfields => absurd hnil hfields⟩
  have hkind' : t.kind = .object := hkinds ▸ hkind
  have hproperties := hmembers "properties"
  rw [hms.renders.properties, hms'.renders.properties, ← ite_not,
    ← ite_not (t.kind = .object ∧ t.fields.isEmpty = false)] at hproperties
  obtain ⟨hiff, hequal⟩ := rel_ite hproperties
  simp only [hkind, hkind', true_and, Bool.not_eq_false, List.isEmpty_iff] at hiff hequal
  exact ⟨hiff, hequal⟩

theorem items_rel (hs : s.WellFormed) (ht : t.WellFormed) :
    Option.Rel equal (s.elements.map fun element => .object (schemaMembers element []))
      (t.elements.map fun element => .object (schemaMembers element [])) := by
  have hkinds := kind_eq C hms hms' hmembers
  by_cases hkind : s.kind = .array
  case neg =>
    rw [elements_eq_none hs hkind, elements_eq_none ht (hkinds ▸ hkind)]
    exact .none
  have hkind' : t.kind = .array := hkinds ▸ hkind
  have hitems := hmembers "items"
  rwa [hms.renders.items, hms'.renders.items, if_pos hkind, if_pos hkind'] at hitems

end Equal

section Fields

variable {equal : Json → Json → Prop} {names : List String → List String → Prop}
  {defaults : Value → Value → Prop} (C : Comparison equal names defaults)
include C

/-- What is said of two fields besides their schemas. -/
theorem own_rel {f g : Field} (hkind : f.schema.kind = g.schema.kind)
    (hf : f.schema.kind.HasDefault f.default) (hg : g.schema.kind.HasDefault g.default)
    (hmembers : ∀ key, Option.Rel equal (Json.member? key (fieldMembers f))
      (Json.member? key (fieldMembers g))) :
    defaults f.default g.default ∧ f.tags = g.tags := by
  constructor
  · have hdefault := hmembers "default"
    rw [member?_default, member?_default] at hdefault
    obtain ⟨hiff, hequal⟩ := rel_ite hdefault
    rw [Value.isNull_iff, Value.isNull_iff] at hiff
    rw [Value.isNull_iff] at hequal
    by_cases hnull : f.default = .null
    · rw [hnull, hiff.mp hnull]
      exact C.noDefault
    · exact C.default hf (hkind ▸ hg) hnull (fun h => hnull (hiff.mpr h)) (hequal hnull)
  · have htags := hmembers "x-tags"
    rw [member?_tags, member?_tags] at htags
    obtain ⟨hiff, hequal⟩ := rel_ite htags
    by_cases hempty : f.tags = []
    · rw [hempty, hiff.mp hempty]
    · exact C.texts (hequal hempty)

theorem names_of_properties {fields fields' : List (String × Field)}
    (hnodup : (fields.map Prod.fst).Nodup) (hnodup' : (fields'.map Prod.fst).Nodup)
    (hempty : fields = [] ↔ fields' = [])
    (h : fields ≠ [] → equal (.object (properties fields)) (.object (properties fields'))) :
    names (fields.map Prod.fst) (fields'.map Prod.fst) ∧
      ∀ p ∈ fields, ∀ q ∈ fields', p.1 = q.1 →
        equal (.object (fieldMembers p.2)) (.object (fieldMembers q.2)) := by
  have hshown (fields : List (String × Field)) :
      (properties fields).map Prod.fst = fields.map Prod.fst := by
    rw [properties_eq, List.map_map]
    rfl
  by_cases hnone : fields = []
  · obtain rfl := hnone
    obtain rfl := hempty.mp rfl
    exact ⟨C.noNames, nofun⟩
  · obtain ⟨hnames, hmembers⟩ :=
      C.members (by rwa [hshown]) (by rwa [hshown]) (h hnone)
    rw [hshown, hshown] at hnames
    refine ⟨hnames, fun p hp q hq hname => ?_⟩
    have hmember := hmembers p.1
    rw [(member?_properties_iff hnodup).mpr ⟨p, hp, rfl, rfl⟩,
      (member?_properties_iff hnodup').mpr ⟨q, hq, hname.symm, rfl⟩] at hmember
    cases hmember with
    | some h => exact h

end Fields

/-- Well-formed schemas whose documents are equal are alike. -/
theorem alikeUpTo_of_equal {equal : Json → Json → Prop}
    {names : List String → List String → Prop} {defaults : Value → Value → Prop}
    (C : Comparison equal names defaults) {s t : Schema} (hs : s.WellFormed) (ht : t.WellFormed)
    {ms ms' : List (String × Json)} (hms : Shows ms s) (hms' : Shows ms' t)
    (h : equal (.object ms) (.object ms')) : s.AlikeUpTo names defaults t := by
  induction s using Schema.inductionOn generalizing t ms ms' with
  | step s ihfields ihelements =>
    have hmembers := (C.members hms.nodup hms'.nodup h).2
    have hproperties := properties_rel C hms hms' hmembers hs ht
    obtain ⟨hnames, hdocuments⟩ :=
      names_of_properties C hs.nodup ht.nodup hproperties.1 hproperties.2
    have hfields : ∀ p ∈ s.fields, ∀ q ∈ t.fields, p.1 = q.1 →
        p.2.schema.AlikeUpTo names defaults q.2.schema :=
      fun p hp q hq hname => ihfields p hp (hs.field hp) (ht.field hq) (shows_field p.2)
        (shows_field q.2) (hdocuments p hp q hq hname)
    have hown : ∀ p ∈ s.fields, ∀ q ∈ t.fields, p.1 = q.1 →
        defaults p.2.default q.2.default ∧ p.2.tags = q.2.tags := by
      intro p hp q hq hname
      have hkinds : p.2.schema.kind = q.2.schema.kind := by
        cases hfields p hp q hq hname with
        | intro hkind => exact hkind
      exact own_rel C hkinds (hs.hasDefault hp) (ht.hasDefault hq)
        (C.members (shows_field p.2).nodup (shows_field q.2).nodup
          (hdocuments p hp q hq hname)).2
    have hitems := items_rel C hms hms' hmembers hs ht
    refine .intro (kind_eq C hms hms' hmembers) (description_eq C hms hms' hmembers) hnames
      (fun p hp q hq hname => required_eq C hms hms' hmembers hs ht hp hq hname)
      (fun p hp q hq hname => (hown p hp q hq hname).1)
      (fun p hp q hq hname => (hown p hp q hq hname).2) hfields ?_ ?_
    · cases hs' : s.elements <;> cases ht' : t.elements <;> rw [hs', ht'] at hitems <;>
        first | rfl | cases hitems
    · intro a b ha hb
      rw [ha, hb] at hitems
      cases hitems with
      | some hdocument =>
        exact ihelements a ha (hs.element ha) (ht.element hb) (shows_schema a) (shows_schema b)
          hdocument

end JsonSchema

/-! ## Alike schemas -/

theorem Binary64.numEq_self {x : Binary64} (h : x.isFinite = true) : x.numEq x = true := by
  cases x with
  | nan => cases h
  | infinity negative => cases h
  | finite negative significand exponent canonical =>
    cases significand with
    | zero => rfl
    | succ n => exact beq_self_eq_true (Binary64.finite negative (n + 1) exponent canonical)

/-- A default is equal to itself: it is no NaN. -/
theorem Kind.HasDefault.same_self {kind : Kind} {value : Value} (h : kind.HasDefault value) :
    value.same value = true := by
  cases h with
  | absent => rfl
  | boolean b => cases b <;> rfl
  | string s => exact beq_self_eq_true s
  | integer i => exact beq_self_eq_true i
  | number hfinite => exact Binary64.numEq_self hfinite
  | @datetime d offset hoffset _ =>
    show d.same d = true
    simp [DateTime.same, DateTime.instant?, hoffset]

theorem Value.SameAmount.same {kind : Kind} {v w : Value} (h : v.SameAmount w)
    (hv : kind.HasDefault v) : v.same w = true := by
  rcases h with rfl | ⟨x, y, rfl, rfl, hsame⟩
  · exact hv.same_self
  · exact hsame

theorem Schema.same_iff (s t : Schema) : s.same t = true ↔
    s.kind = t.kind ∧ s.description = t.description ∧ s.fields.length = t.fields.length ∧
      sameFields s.fields t.fields = true ∧ sameElements s.elements t.elements = true := by
  obtain ⟨kind, description, fields, elements⟩ := s
  rw [Schema.same]
  simp only [Bool.and_eq_true, beq_iff_eq, and_assoc]

theorem Schema.sameField_iff (f g : Field) : sameField f g = true ↔
    f.schema.same g.schema = true ∧ f.required = g.required ∧ f.default.same g.default = true ∧
      f.tags = g.tags := by
  obtain ⟨schema, required, default, tags⟩ := f
  rw [sameField]
  simp only [Bool.and_eq_true, beq_iff_eq, and_assoc]

theorem Schema.sameFields_of_forall {fields others : List (String × Field)}
    (h : ∀ p ∈ fields, ∃ other, Field.find? p.1 others = some other ∧
      sameField p.2 other = true) : sameFields fields others = true := by
  induction fields with
  | nil => rfl
  | cons p rest ih =>
    obtain ⟨other, hfind, hsame⟩ := h p List.mem_cons_self
    rw [sameFields, hfind, ih fun q hq => h q (List.mem_cons_of_mem _ hq), Bool.and_true]
    exact hsame

theorem Field.exists_find? {name : String} {fields : List (String × Field)}
    (h : name ∈ fields.map Prod.fst) :
    ∃ q ∈ fields, q.1 = name ∧ Field.find? name fields = some q.2 := by
  obtain ⟨p, hp, hname⟩ := List.mem_map.mp h
  have hsome : (fields.find? fun q => q.1 == name).isSome = true :=
    List.find?_isSome.mpr ⟨p, hp, beq_iff_eq.mpr hname⟩
  obtain ⟨q, hq⟩ := Option.isSome_iff_exists.mp hsome
  refine ⟨q, List.mem_of_find?_eq_some hq, by simpa using List.find?_some hq, ?_⟩
  rw [Field.find?, hq]
  rfl

/-- Schemas that are alike up to the order of fields and the sign of zeros are the same. -/
theorem Schema.AlikeUpTo.same {s t : Schema} (h : s.AlikeUpTo List.Perm Value.SameAmount t)
    (hs : s.WellFormed) : s.same t = true := by
  induction h with
  | @intro s t hkind hdescription hnames hrequired hdefaults htags _ hopen _ ihfields ihelements =>
    have hlength : s.fields.length = t.fields.length := by simpa using hnames.length_eq
    have hfields : sameFields s.fields t.fields = true := by
      refine sameFields_of_forall fun p hp => ?_
      obtain ⟨q, hq, hname, hfind⟩ :=
        Field.exists_find? (hnames.mem_iff.mp (List.mem_map_of_mem hp))
      exact ⟨q.2, hfind, (sameField_iff p.2 q.2).mpr ⟨ihfields p hp q hq hname.symm (hs.field hp),
        hrequired p hp q hq hname.symm,
        (hdefaults p hp q hq hname.symm).same (hs.hasDefault hp), htags p hp q hq hname.symm⟩⟩
    have helements : sameElements s.elements t.elements = true := by
      cases hs' : s.elements <;> cases ht' : t.elements <;> rw [hs', ht'] at hopen
      · rfl
      · cases hopen
      · cases hopen
      · exact ihelements _ _ hs' ht' (hs.element hs')
    exact (same_iff s t).mpr ⟨hkind, hdescription, hlength, hfields, helements⟩

namespace JsonSchema

theorem shows_document {schema : Schema} {title : String} {withDialect : Bool} {json : Json}
    (h : document (.schema schema) title withDialect = .ok json) :
    ∃ members, json = .object members ∧ Shows members schema := by
  refine ⟨_, (Except.ok.inj h).symm, shows_append _ [] ?_ (List.nil_sublist _) schema⟩
  rw [List.map_append]
  exact (Schema.optionalMember_names "$schema" _ _).append
    (Schema.optionalMember_names "title" _ _)

/-- The documents of derived schemas determine them, whatever definitions they are derived from:
equal documents are those of one schema, and documents that are equal as dictionaries those of
schemas that differ in the order of fields and the sign of zeros at most. -/
theorem document_injective [Text.Repertoire] {registry registry' : Registry} {type type' : TypeExpr}
    {schema schema' : Schema} (hderive : registry.derive type = .ok schema)
    (hderive' : registry'.derive type' = .ok schema') {title title' : String}
    {withDialect withDialect' : Bool} {json json' : Json}
    (hjson : document (.schema schema) title withDialect = .ok json)
    (hjson' : document (.schema schema') title' withDialect' = .ok json') :
    (json = json' → schema = schema') ∧
      (json.toValue.same json'.toValue = true →
        schema.same schema' = true ∧
          schema.AlikeUpTo List.Perm Value.SameAmount schema') := by
  have hschema := (Registry.describes_of_derive hderive).wellFormed
  have hschema' := (Registry.describes_of_derive hderive').wellFormed
  obtain ⟨ms, rfl, hms⟩ := shows_document hjson
  obtain ⟨ms', rfl, hms'⟩ := shows_document hjson'
  constructor
  · intro heq
    exact (alikeUpTo_of_equal comparison_eq hschema hschema' hms hms' heq).eq_of_names
  · intro hsame
    have halike := alikeUpTo_of_equal comparison_sameValue hschema hschema' hms hms' hsame
    exact ⟨halike.same hschema, halike⟩

/-- Lists and sequences of events have one document, and so one schema. -/
theorem document_injective_events :
    ∃ schema schema' json,
      Registry.events.derive (.array .list (.record Registry.eventRef)) = .ok schema ∧
      Registry.events.derive (.array .sequence (.record Registry.eventRef)) = .ok schema' ∧
      document (.schema schema) "Events" true = .ok json ∧
      document (.schema schema') "Events" true = .ok json ∧ schema = schema' := by
  have hsome : (Registry.events.derive (.record Registry.eventRef)).isOk = true := by
    decide +kernel
  obtain ⟨element, helement⟩ := Outcome.exists_of_isOk hsome
  have hderive (form : ArrayForm) :
      Registry.events.derive (.array form (.record Registry.eventRef)) =
        .ok (.arrayOf element) :=
    Registry.derive_eq_ok_iff_describes.mpr
      ⟨.array (Registry.describes_of_derive helement), rfl⟩
  obtain ⟨json, hjson⟩ :
      ∃ json, document (.schema (.arrayOf element)) "Events" true = .ok json := ⟨_, rfl⟩
  exact ⟨_, _, json, hderive .list, hderive .sequence, hjson, hjson,
    (document_injective (hderive .list) (hderive .sequence) hjson hjson).1 rfl⟩

end JsonSchema
end Schematic
