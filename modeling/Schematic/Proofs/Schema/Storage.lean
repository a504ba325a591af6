import Schematic.Proofs.Json.Limits
import Schematic.Proofs.Loading.Defaults
import Schematic.Proofs.Schema.Revision
import Schematic.Proofs.Value.Storable

/-!
Definitions that are stored again.  What was read from a text has names under which its parts stand
once and nesting that a text can have, so the text of it is read, with and without the limit on
definitions.  Its defaults come back without floats that are not finite, which JSON has no texts for,
and everything else comes back as it was.

So what is read back equals the definition if and only if the floats in its defaults are finite.
-/

namespace Schematic

/-- A node of a schema is the schema itself or a node of one of its parts. -/
theorem Schema.node_iff {schema node : Schema} :
    schema.Node node ↔ node = schema ∨ (∃ p ∈ schema.fields, p.2.schema.Node node) ∨
      ∃ element, schema.elements = some element ∧ element.Node node := by
  constructor
  · intro h
    induction h with
    | root => exact .inl rfl
    | @field outer p hnode hp ih =>
      rcases ih with rfl | ⟨q, hq, hinner⟩ | ⟨element, helement, hinner⟩
      · exact .inr (.inl ⟨p, hp, .root⟩)
      · exact .inr (.inl ⟨q, hq, .field hinner hp⟩)
      · exact .inr (.inr ⟨element, helement, .field hinner hp⟩)
    | @element outer part hnode hpart ih =>
      rcases ih with rfl | ⟨q, hq, hinner⟩ | ⟨element, helement, hinner⟩
      · exact .inr (.inr ⟨part, hpart, .root⟩)
      · exact .inr (.inl ⟨q, hq, .element hinner hpart⟩)
      · exact .inr (.inr ⟨element, helement, .element hinner hpart⟩)
  · have hpart {part : Schema} (hone : schema.Node part) (h : part.Node node) :
        schema.Node node := by
      induction h with
      | root => exact hone
      | field _ hp ih => exact .field ih hp
      | element _ helement ih => exact .element ih helement
    rintro (rfl | ⟨p, hp, h⟩ | ⟨element, helement, h⟩)
    · exact .root
    · exact hpart (.field .root hp) h
    · exact hpart (.element .root helement) h

namespace Decode

open Schema (mapDefaults mapDefaultsField)

variable {medium : Medium} {room : Nat}

/-! ## Defaults that were read -/

/-- A default that was read, for a kind, from a document with so many containers inside. -/
def Restored (kind : Kind) (room : Nat) (default : Value) : Prop :=
  ∃ given : Value, given.Storable room ∧ restore (.str kind.name) given = .ok default

theorem restore_float (kind : Kind) (x : Binary64) :
    restore (.str kind.name) (Value.float x).onlyFinite = .ok (Value.float x).onlyFinite := by
  rw [Value.onlyFinite]
  split <;> cases kind <;> rfl

/-- A default that was read can stand in a document, and is read there as what is left of it; or it is
a point in time. -/
theorem Restored.cases {kind : Kind} {default : Value} (h : Restored kind room default) :
    (default.Storable room ∧
        restore (.str kind.name) default.onlyFinite = .ok default.onlyFinite) ∨
      kind.HasDefault default ∧ ∃ d, default = .datetime d := by
  obtain ⟨given, hgiven, hrestore⟩ := h
  by_cases hsame : default = given
  · subst hsame
    refine .inl ⟨hgiven, ?_⟩
    cases hgiven with
    | null | bool | int | str => exact hrestore
    | float x => exact restore_float kind x
    | list | dict => cases kind <;> rfl
  · unfold restore at hrestore
    split at hrestore
    next text hname =>
      have hkind := Kind.ofName?_name kind
      rw [Value.str.inj hname] at hkind
      obtain rfl : Kind.datetime = kind := Option.some.inj hkind
      split at hrestore
      next d hparse =>
        obtain rfl := Except.ok.inj hrestore
        obtain ⟨offset, hoffset, hminutes⟩ := Coercion.offset_of_parseDateTime hparse
        exact .inr ⟨.datetime hoffset hminutes, d, rfl⟩
      next => exact absurd (Except.ok.inj hrestore).symm hsame
    next i _ =>
      split at hrestore
      next x _ =>
        obtain rfl := Except.ok.inj hrestore
        exact .inl ⟨.float x, restore_float kind x⟩
      next => cases hrestore
    next => exact absurd (Except.ok.inj hrestore).symm hsame

theorem Restored.limited {kind : Kind} {default : Value} (h : Restored kind room default) :
    (Schema.encodeDefault default).Limited (fun x => x.isFinite = true) room := by
  rcases h.cases with ⟨hstorable, -⟩ | ⟨-, d, rfl⟩
  · exact hstorable.limited_encode
  · exact .str d.rfc3339

/-- A default that was read is read again as what is left of it. -/
theorem Restored.shown {kind : Kind} {default : Value} (h : Restored kind room default) :
    restore (.str kind.name) (shownDefault default) = .ok default.onlyFinite := by
  rcases h.cases with ⟨hstorable, hrestore⟩ | ⟨hdefault, d, rfl⟩
  · have hshown : shownDefault default = default.onlyFinite := by
      rw [← hstorable.toValue_encode]
      by_cases hnull : default = .null
      · subst hnull
        rfl
      · unfold shownDefault Decode.shown
        rw [Value.isNull_eq_false hnull]
        rfl
    rw [hshown, hrestore]
  · exact restore_shown hdefault

theorem Restored.same_onlyFinite {kind : Kind} {default : Value} (h : Restored kind room default) :
    Value.same default.onlyFinite default = true ↔ default.hasNonFinite = false := by
  rcases h.cases with ⟨hstorable, -⟩ | ⟨-, d, rfl⟩
  · exact hstorable.same_onlyFinite
  · refine iff_of_true ?_ rfl
    show d.same d = true
    unfold DateTime.same
    cases d.instant? with
    | none => exact beq_self_eq_true _
    | some x => exact beq_self_eq_true x

/-! ## Schemas that were read -/

/-- What a field that was read says beyond its schema, with so many containers in its document. -/
structure OwnRead (room : Nat) (field : Field) : Prop where
  default : Restored field.schema.kind (room - 1) field.default
  tags : field.tags ≠ [] → 0 < room - 1

/-- A schema that was read, with so many containers in its document.  A declared member is two
containers further inside, in the one of the members. -/
inductive Decoded : Nat → Schema → Prop
  | intro {room : Nat} {schema : Schema} (hroom : 0 < room)
      (hnames : (schema.fields.map Prod.fst).Nodup) (hblock : schema.fields ≠ [] → 0 < room - 1)
      (hown : ∀ p ∈ schema.fields, OwnRead (room - 1 - 1) p.2)
      (hfields : ∀ p ∈ schema.fields, Decoded (room - 1 - 1) p.2.schema)
      (helements : ∀ element, schema.elements = some element → Decoded (room - 1) element) :
      Decoded room schema

theorem storable_entry {document : Value} {entries : List (Value × Value)}
    (h : document.Storable room) (hentries : document.entries? = some entries)
    {e : Value × Value} (he : e ∈ entries) : 0 < room ∧ e.2.Storable (room - 1) := by
  cases h with
  | @dict _ members _ hroom hmembers =>
    obtain rfl := Option.some.inj hentries
    obtain ⟨p, hp, rfl⟩ := List.mem_map.mp he
    exact ⟨hroom (List.ne_nil_of_mem hp), hmembers p hp⟩
  | _ => cases hentries

theorem type_of_kind {type : Value} {kind : Kind} (h : Decode.kind .json type = .ok kind) :
    type = .str kind.name := by
  unfold Decode.kind at h
  cases htext : Reading.text .json type with
  | error reason => rw [htext] at h; cases h
  | ok name =>
    rw [htext] at h
    cases hfound : Kind.ofName? name with
    | none => simp only [hfound] at h; cases h
    | some found =>
      simp only [hfound] at h
      obtain rfl := Except.ok.inj h
      obtain rfl : found.name = name := by
        simpa using List.find?_some hfound
      unfold Reading.text at htext
      split at htext
      next s => rw [Except.ok.inj htext]
      next => cases htext
      next => cases htext

theorem type_of_toSchema {m : Members} {schema : Schema}
    (h : m.toSchema .json room = .ok schema) : m.type = some (.str schema.kind.name) := by
  obtain ⟨hkind, -⟩ := toSchema_eq_ok_iff.mp h
  cases htype : m.type with
  | none => rw [htype] at hkind; cases hkind
  | some type =>
    rw [htype] at hkind
    rw [type_of_kind (inside_eq_ok (Checked.under_eq_ok hkind))]

theorem ownRead_of_fieldOf {limit : Nat} {document : Value} {field : Field}
    (hdocument : document.Storable room) (h : fieldOf .json limit document = .ok field) :
    OwnRead room field := by
  cases hdocument with
  | @dict _ members _ hroom hmembers =>
    have hdocument : (Value.dict (members.map fun p => (.str p.1, p.2))).Storable room :=
      .dict ‹_› hroom hmembers
    change (membersOf .json limit _).toField .json limit true = _ at h
    obtain ⟨hschema, -, hdefault, htags⟩ := toField_eq_ok_iff.mp h
    have htype := type_of_toSchema hschema
    rw [membersOf_eq] at htype hdefault htags
    constructor
    · change restore (Option.getD (membersUnder _ _ _).type .null) _ = _ at hdefault
      rw [htype] at hdefault
      refine ⟨_, ?_, hdefault⟩
      show Value.Storable (room - 1) ((Value.lastAt? "default" _).getD .null)
      cases hgiven : Value.lastAt? "default" (members.map fun p => (Value.str p.1, p.2)) with
      | none => exact .null
      | some given => exact (storable_entry hdocument rfl (Value.lastAt?_mem hgiven)).2
    · intro hne
      change Members.read "tags" _ _ (Value.lastAt? "tags" _) = _ at htags
      cases hgiven : Value.lastAt? "tags" (members.map fun p => (Value.str p.1, p.2)) with
      | none =>
        rw [hgiven] at htags
        exact absurd (Except.ok.inj htags).symm hne
      | some given =>
        rw [hgiven] at htags
        have hread := Checked.under_eq_ok htags
        have hstorable := (storable_entry hdocument rfl (Value.lastAt?_mem hgiven)).2
        cases hstorable with
        | @list _ items hinner _ =>
          refine hinner fun hnil => hne ?_
          subst hnil
          exact (Except.ok.inj hread).symm
        | _ => cases hread
  | _ => cases h

/-- Whatever is read from a document that comes from a text has names that are distinct and as much
nesting as the document. -/
theorem decoded_of_schemaOf {schema : Schema} {limit : Nat} {document : Value}
    (hdocument : document.Storable room) (h : schemaOf .json limit document = .ok schema) :
    Decoded room schema := by
  induction schema using Schema.inductionOn generalizing room limit document with
  | step schema ihfields ihelements =>
    obtain ⟨entries, hentries, h⟩ := schemaOf_eq_ok h
    have htype := type_of_toSchema h
    obtain ⟨hnames, hfields, helements⟩ := blocks_of_toSchema h
    rw [membersOf_eq] at htype
    have hroom := (storable_entry hdocument hentries (Value.lastAt?_mem htype)).1
    have hpart : ∀ p ∈ schema.fields, 0 < room - 1 ∧
        ∃ part : Value, part.Storable (room - 1 - 1) ∧ fieldOf .json (limit - 1) part = .ok p.2 := by
      intro p hp
      obtain ⟨block, members, hblock, hmembers, e, he, hread⟩ := hfields p hp
      have hinner := (storable_entry hdocument hentries (Value.lastAt?_mem hblock)).2
      obtain ⟨hpos, hstorable⟩ := storable_entry hinner hmembers he
      exact ⟨hpos, e.2, hstorable, hread⟩
    refine .intro hroom hnames (fun hne => ?_) (fun p hp => ?_) (fun p hp => ?_)
      fun element helement => ?_
    · obtain ⟨p, hp⟩ := List.exists_mem_of_ne_nil _ hne
      exact (hpart p hp).1
    · obtain ⟨-, part, hpart, hread⟩ := hpart p hp
      exact ownRead_of_fieldOf hpart hread
    · obtain ⟨-, part, hpart, hread⟩ := hpart p hp
      exact ihfields p hp hpart (schemaOf_of_fieldOf hread)
    · obtain ⟨part, hpart, hread⟩ := helements element helement
      exact ihelements element helement
        (storable_entry hdocument hentries (Value.lastAt?_mem hpart)).2 hread

variable {schema : Schema}

theorem Decoded.pos (h : Decoded room schema) : 0 < room := by
  cases h with
  | intro hroom => exact hroom

theorem Decoded.depth_lt (h : Decoded room schema) : schema.depth < room := by
  induction h with
  | @intro room schema hroom _ _ _ _ _ ihfields ihelements =>
    refine Schema.depth_lt_of_parts hroom (fun p hp => ?_) fun element helement => ?_
    · have hlt := ihfields p hp
      omega
    · have hlt := ihelements element helement
      omega

theorem Decoded.distinctNames (h : Decoded room schema) : schema.DistinctNames := by
  induction h with
  | intro _ hnames _ _ _ _ ihfields ihelements => exact .intro hnames ihfields ihelements

theorem Decoded.restores (h : Decoded room schema) : Restores Value.onlyFinite schema := by
  induction h with
  | intro _ hnames _ hown _ _ ihfields ihelements =>
    exact .intro hnames (fun p hp => (hown p hp).default.shown) ihfields ihelements

theorem limited_optional {name : String} {absent : Bool} {json : Json}
    (h : absent = false → json.Limited (fun x => x.isFinite = true) room) :
    ∀ p ∈ Schema.optionalMember name absent json, p.2.Limited (fun x => x.isFinite = true) room := by
  cases absent with
  | true => exact nofun
  | false => exact List.forall_mem_singleton.mpr (h rfl)

theorem OwnRead.limited {field : Field} (h : OwnRead room field) :
    ∀ p ∈ Schema.encodeOwn field.required field.default field.tags,
      p.2.Limited (fun x => x.isFinite = true) (room - 1) := by
  unfold Schema.encodeOwn
  rw [List.forall_mem_append, List.forall_mem_append]
  refine ⟨⟨limited_optional fun _ => .bool _, limited_optional fun _ => h.default.limited⟩,
    limited_optional fun htags => .array (fun _ => h.tags ?_) ?_⟩
  · rwa [Ne, ← List.isEmpty_iff, Bool.not_eq_true]
  · exact List.forall_mem_map.mpr fun tag _ => .str tag

/-- The members of the document of a schema that was read have room in a document. -/
theorem Decoded.limited_members (h : Decoded room schema) :
    ∀ p ∈ schema.encodeMembers, p.2.Limited (fun x => x.isFinite = true) (room - 1) := by
  induction h with
  | @intro room schema _ _ hblock hown hinner helements ihfields ihelements =>
    obtain ⟨kind, description, fields, elements⟩ := schema
    have hfield : ∀ p ∈ fields,
        (Json.object (Schema.encodeField p.2)).Limited (fun x => x.isFinite = true)
          (room - 1 - 1) := by
      intro p hp
      rw [Schema.encodeField_eq]
      exact .object (fun _ => (hinner p hp).pos)
        (List.forall_mem_append.mpr ⟨ihfields p hp, (hown p hp).limited⟩)
    unfold Schema.encodeMembers
    rw [List.forall_mem_cons, List.forall_mem_append, List.forall_mem_append]
    refine ⟨.str _, ⟨limited_optional fun _ => .str _, limited_optional fun hnone => ?_⟩, ?_⟩
    · rw [Schema.encodeFields_eq]
      refine .object (fun _ => hblock ?_) (List.forall_mem_map.mpr hfield)
      rwa [Ne, ← List.isEmpty_iff, Bool.not_eq_true]
    · cases elements with
      | none => exact List.forall_mem_nil _
      | some element =>
        exact List.forall_mem_singleton.mpr
          (.object (fun _ => (helements element rfl).pos) (ihelements element rfl))

theorem Decoded.limited (h : Decoded room schema) :
    schema.encode.Limited (fun x => x.isFinite = true) room :=
  .object (fun _ => h.pos) h.limited_members

/-! ## Equality -/

/-- Whether a schema with other defaults is the same is decided field by field. -/
theorem same_mapDefaults_iff {change : Value → Value} (hnames : (schema.fields.map Prod.fst).Nodup) :
    (schema.mapDefaults change).same schema = true ↔
      (∀ p ∈ schema.fields, (p.2.schema.mapDefaults change).same p.2.schema = true ∧
        (change p.2.default).same p.2.default = true) ∧
      ∀ element, schema.elements = some element →
        (element.mapDefaults change).same element = true := by
  have hfield (chosen : List (String × Field)) (hsub : ∀ p ∈ chosen, p ∈ schema.fields) :
      Schema.sameFields (chosen.map fun p => (p.1, mapDefaultsField change p.2)) schema.fields =
          true ↔
        ∀ p ∈ chosen, (p.2.schema.mapDefaults change).same p.2.schema = true ∧
          (change p.2.default).same p.2.default = true := by
    induction chosen with
    | nil => exact iff_of_true rfl nofun
    | cons p rest ih =>
      rw [List.map_cons, Schema.sameFields, Schema.find?_of_mem hnames (hsub p List.mem_cons_self),
        Bool.and_eq_true, ih fun q hq => hsub q (List.mem_cons_of_mem _ hq), List.forall_mem_cons,
        Schema.mapDefaultsField_eq]
      refine and_congr_left fun _ => ?_
      dsimp only
      rw [Schema.sameField, beq_self_eq_true, beq_self_eq_true, Bool.and_true, Bool.and_true,
        Bool.and_eq_true]
  have helements : Schema.sameElements (schema.elements.map (mapDefaults change)) schema.elements =
      true ↔ ∀ element, schema.elements = some element →
        (element.mapDefaults change).same element = true := by
    cases schema.elements with
    | none => exact iff_of_true rfl nofun
    | some element =>
      exact ⟨fun h other hother => Option.some.inj hother ▸ h, fun h => h element rfl⟩
  rw [Schema.mapDefaults_eq, Schema.same, beq_self_eq_true, beq_self_eq_true, List.length_map,
    beq_self_eq_true, Bool.and_eq_true]
  exact and_congr (hfield schema.fields fun _ hp => hp) helements

/-- A schema that was read equals what is left of it if and only if the floats in all its defaults
are finite. -/
theorem Decoded.same_iff (h : Decoded room schema) :
    (schema.mapDefaults Value.onlyFinite).same schema = true ↔
      ∀ node, schema.Node node → ∀ p ∈ node.fields, p.2.default.hasNonFinite = false := by
  induction h with
  | @intro room schema _ hnames _ hown _ _ ihfields ihelements =>
    rw [same_mapDefaults_iff hnames]
    constructor
    · rintro ⟨hfields, helements⟩ node hnode p hp
      rcases Schema.node_iff.mp hnode with rfl | ⟨q, hq, hinner⟩ | ⟨element, helement, hinner⟩
      · exact (hown p hp).default.same_onlyFinite.mp (hfields p hp).2
      · exact (ihfields q hq).mp (hfields q hq).1 node hinner p hp
      · exact (ihelements element helement).mp (helements element helement) node hinner p hp
    · intro hfinite
      refine ⟨fun p hp => ⟨(ihfields p hp).mpr fun node hnode => ?_, ?_⟩, fun element helement =>
        (ihelements element helement).mpr fun node hnode => ?_⟩
      · exact hfinite node (Schema.node_iff.mpr (.inr (.inl ⟨p, hp, hnode⟩)))
      · exact (hown p hp).default.same_onlyFinite.mpr (hfinite schema .root p hp)
      · exact hfinite node (Schema.node_iff.mpr (.inr (.inr ⟨element, helement, hnode⟩)))

/-! ## Reading the text of a definition -/

/-- A member of a text that is read as it is in a dictionary. -/
def ReadAlike (p : String × Json) : Prop :=
  (p.1 = "fields" → fieldsOfJson p.2 = fieldsOf .json maxRoom p.2.toValue) ∧
    (p.1 = "elements" → elementsOfJson p.2 = elementsOf .json maxRoom p.2.toValue)

theorem membersOfJson_of_alike {members : List (String × Json)} (h : ∀ p ∈ members, ReadAlike p) :
    membersOfJson members = membersOf .json maxRoom (Json.entries members) := by
  induction members with
  | nil => rfl
  | cons p rest ih =>
    obtain ⟨name, json⟩ := p
    obtain ⟨⟨hfields, helements⟩, hrest⟩ := List.forall_mem_cons.mp h
    show withMember (name, json) (membersOfJson rest) =
      withEntry .json maxRoom (.str name, json.toValue) (membersOf .json maxRoom (Json.entries rest))
    rw [ih hrest]
    by_cases hname : name = "fields"
    · subst hname
      simp only [withMember, withEntry, hfields rfl]
    by_cases hname' : name = "elements"
    · subst hname'
      simp only [withMember, withEntry, helements rfl]
    · simp only [withMember, withEntry]

theorem alike_optional {name : String} {absent : Bool} {json : Json} (h : ReadAlike (name, json)) :
    ∀ p ∈ Schema.optionalMember name absent json, ReadAlike p := by
  cases absent with
  | true => exact nofun
  | false => exact List.forall_mem_singleton.mpr h

/-- The declared members of a text are those of its dictionary, where names are distinct. -/
theorem fieldsOfJson_encode {fields : List (String × Field)} (h : (fields.map Prod.fst).Nodup) :
    fieldsOfJson (.object (Schema.encodeFields fields)) =
      fieldsOf .json maxRoom (Json.object (Schema.encodeFields fields)).toValue := by
  rw [Schema.toValue_encodeFields h, Schema.encodeFields_eq]
  show collect _ = collect _
  congr 1
  rw [memberList_eq, List.map_map, List.map_map]
  refine List.map_congr_left fun p _ => ?_
  have hfield : (Json.object (Schema.encodeField p.2)).toValue =
      .dict (Json.entries (Schema.encodeField p.2)) :=
    Json.toValue_object (Schema.encodeField_nodup p.2)
  show member .json (.str p.1) (fieldOf .json maxRoom (Json.object _).toValue) =
    member .json (.str p.1) (fieldOf .json (maxRoom - 1) (.dict _))
  rw [hfield, fieldOf_json (maxRoom - 1) maxRoom]

theorem schemaOfJson_encode {schema : Schema} (h : schema.DistinctNames) :
    schemaOfJson schema.encode = schemaOf .json maxRoom schema.encode.toValue := by
  induction h with
  | @intro schema hnames _ _ _ ihelements =>
    have halike : ∀ p ∈ schema.encodeMembers, ReadAlike p := by
      obtain ⟨kind, description, fields, elements⟩ := schema
      have hother {name : String} {json : Json} (hfields : name ≠ "fields")
          (helements : name ≠ "elements") : ReadAlike (name, json) :=
        ⟨fun h => absurd h hfields, fun h => absurd h helements⟩
      have hblocks : "fields" ≠ "elements" := by decide
      unfold Schema.encodeMembers
      rw [List.forall_mem_cons, List.forall_mem_append, List.forall_mem_append]
      refine ⟨hother (by decide) (by decide), ⟨alike_optional (hother (by decide) (by decide)),
        alike_optional ⟨fun _ => fieldsOfJson_encode hnames, fun h => absurd h hblocks⟩⟩, ?_⟩
      cases elements with
      | none => exact List.forall_mem_nil _
      | some element =>
        refine List.forall_mem_singleton.mpr ⟨fun h => absurd h.symm hblocks, fun _ => ?_⟩
        show (schemaOfJson element.encode).map some = elementsOf .json maxRoom element.encode.toValue
        rw [ihelements element rfl, Schema.toValue_encode, elementsOf_json maxRoom (maxRoom + 1)]
        rfl
    rw [Schema.toValue_encode]
    show (membersOfJson schema.encodeMembers).toSchema .json maxRoom = _
    rw [membersOfJson_of_alike halike]
    rfl

end Decode

/-! ## Definitions -/

namespace Definition

/-- A definition in which every default is changed.  An unchecked one has none. -/
def mapDefaults (change : Value → Value) : Definition → Definition
  | .schema s => .schema (s.mapDefaults change)
  | .field f => .field (Schema.mapDefaultsField change f)
  | .unchecked kind description => .unchecked kind description

open Decode (Decoded OwnRead)

/-- A definition that was read, with so many containers in its document. -/
inductive Decoded (room : Nat) : Definition → Prop
  | schema {schema : Schema} (h : Decode.Decoded room schema) : Decoded room (.schema schema)
  | field {field : Field} (h : Decode.Decoded room field.schema) (hown : OwnRead room field) :
      Decoded room (.field field)

theorem decoded_of_text {target : Target} {text : List UInt8} {d : Definition}
    (h : ofText target text = .ok d) : d.Decoded Json.maxDepth ∧ d.target = target := by
  unfold ofText at h
  cases hread : Json.read true text with
  | error fault => rw [hread] at h; cases h
  | ok json =>
    simp only [hread] at h
    have hdocument := Value.storable_toValue (Json.isRead_of_read hread)
    cases target with
    | schema =>
      obtain ⟨schema, hschema, rfl⟩ := Outcome.map_eq_ok h
      have hread := Decode.schemaOf_of_json json hschema Decode.maxRoom
      exact ⟨.schema (Decode.decoded_of_schemaOf hdocument hread), rfl⟩
    | field =>
      obtain ⟨field, hfield, rfl⟩ := Outcome.map_eq_ok h
      exact ⟨.field (Decode.decoded_of_schemaOf hdocument (Decode.schemaOf_of_fieldOf hfield))
        (Decode.ownRead_of_fieldOf hdocument hfield), rfl⟩

variable {room : Nat} {d : Definition}

/-- The document of a definition that was read can be written as a text and read from it. -/
theorem Decoded.limited (h : d.Decoded room) :
    d.encode.Limited (fun x => x.isFinite = true) room := by
  cases h with
  | schema h => exact h.limited
  | @field field h hown =>
    show (Json.object (Schema.encodeField field)).Limited _ room
    rw [Schema.encodeField_eq]
    exact .object (fun _ => h.pos) (List.forall_mem_append.mpr ⟨h.limited_members, hown.limited⟩)

/-- The document of a definition that was read is read without floats that are not finite, given as a
text or as a value. -/
theorem Decoded.reads (h : d.Decoded Json.maxDepth) (indent : Option Nat) :
    ofText d.target (Text.Utf8.encode (d.toText indent)) =
        .ok (d.mapDefaults Value.onlyFinite) ∧
      ofValue d.target d.toValue = .ok (d.mapDefaults Value.onlyFinite) := by
  have htext : Json.read true (Text.Utf8.encode (d.toText indent)) = .ok d.encode :=
    Json.read_text indent h.limited true
  have hroom {schema : Schema} (h : Decode.Decoded Json.maxDepth schema) :
      schema.depth < Decode.maxRoom := Nat.lt_trans h.depth_lt (by decide)
  cases h with
  | @schema schema h =>
    have hread (medium : Medium) : Decode.schemaOf medium Decode.maxRoom schema.encode.toValue =
        .ok (schema.mapDefaults Value.onlyFinite) :=
      (Decode.of_encode_restored h.restores fun _ => hroom h).1
    constructor
    · show ofText .schema _ = _
      unfold ofText
      rw [htext]
      show (Decode.schemaOfJson schema.encode).map Definition.schema = _
      rw [Decode.schemaOfJson_encode h.distinctNames, hread]
      rfl
    · show (Decode.schemaOf .value Decode.maxRoom schema.encode.toValue).map Definition.schema = _
      rw [hread]
      rfl
  | @field field h hown =>
    have hdocument : field.encode.toValue = .dict (Json.entries (Schema.encodeField field)) :=
      Json.toValue_object (Schema.encodeField_nodup field)
    have hread (medium : Medium) : Decode.fieldOf medium Decode.maxRoom field.encode.toValue =
        .ok (Schema.mapDefaultsField Value.onlyFinite field) := by
      rw [hdocument]
      exact (Decode.of_encode_restored h.restores fun _ => hroom h).2 _ _ _ hown.default.shown
    constructor
    · show ofText .field _ = _
      unfold ofText
      rw [htext]
      show (Decode.fieldOf .json Decode.maxRoom field.encode.toValue).map Definition.field = _
      rw [hread]
      rfl
    · show (Decode.fieldOf .value Decode.maxRoom field.encode.toValue).map Definition.field = _
      rw [hread]
      rfl

/-- All floats in the defaults of a definition are finite. -/
def FiniteDefaults (d : Definition) : Prop :=
  ∀ field, d.HasField field → field.default.hasNonFinite = false

theorem finiteDefaults_schema {schema : Schema} : FiniteDefaults (.schema schema) ↔
    ∀ node, schema.Node node → ∀ p ∈ node.fields, p.2.default.hasNonFinite = false := by
  constructor
  · intro h node hnode p hp
    exact h p.2 (.member rfl hnode hp)
  · intro h field hfield
    cases hfield with
    | member hschema hnode hp =>
      obtain rfl := Option.some.inj hschema
      exact h _ hnode _ hp

theorem finiteDefaults_field {field : Field} : FiniteDefaults (.field field) ↔
    FiniteDefaults (.schema field.schema) ∧ field.default.hasNonFinite = false := by
  rw [finiteDefaults_schema]
  constructor
  · intro h
    exact ⟨fun node hnode p hp => h p.2 (.member rfl hnode hp), h field (.root field)⟩
  · rintro ⟨hschema, hdefault⟩ other hother
    cases hother with
    | root => exact hdefault
    | member hsome hnode hp =>
      obtain rfl := Option.some.inj hsome
      exact hschema _ hnode _ hp

/-- A definition that was read equals what is left of it if and only if the floats in its defaults
are finite. -/
theorem Decoded.same_iff (h : d.Decoded room) :
    (d.mapDefaults Value.onlyFinite).same d = true ↔ d.FiniteDefaults := by
  cases h with
  | schema h => exact h.same_iff.trans finiteDefaults_schema.symm
  | @field field h hown =>
    rw [finiteDefaults_field, finiteDefaults_schema, ← h.same_iff, ← hown.default.same_onlyFinite]
    obtain ⟨schema, required, default, tags⟩ := field
    show Schema.sameField (Schema.mapDefaultsField _ _) _ = true ↔ _
    rw [Schema.mapDefaultsField, Schema.sameField, beq_self_eq_true, beq_self_eq_true,
      Bool.and_true, Bool.and_true, Bool.and_eq_true]

theorem mapDefaults_of_finite (h : d.FiniteDefaults) : d.mapDefaults Value.onlyFinite = d := by
  have hnodes (schema : Schema)
      (h : ∀ node, schema.Node node → ∀ p ∈ node.fields, p.2.default.hasNonFinite = false) :
      schema.mapDefaults Value.onlyFinite = schema := by
    induction schema using Schema.inductionOn with
    | step schema ihfields ihelements =>
      refine Schema.mapDefaults_self (fun p hp => ⟨ihfields p hp fun node hnode => ?_,
        Value.onlyFinite_of_finite _ (h schema .root p hp)⟩) fun element helement =>
          ihelements element helement fun node hnode => ?_
      · exact h node (Schema.node_iff.mpr (.inr (.inl ⟨p, hp, hnode⟩)))
      · exact h node (Schema.node_iff.mpr (.inr (.inr ⟨element, helement, hnode⟩)))
  cases d with
  | schema s => rw [mapDefaults, hnodes s (finiteDefaults_schema.mp h)]
  | field f =>
    obtain ⟨hschema, hdefault⟩ := finiteDefaults_field.mp h
    rw [mapDefaults, Schema.mapDefaultsField_eq, hnodes f.schema (finiteDefaults_schema.mp hschema),
      Value.onlyFinite_of_finite _ hdefault]
  | unchecked => rfl

/-- A definition that is read from a text is read again from the text of it, with any indentation,
and from its dictionary, with null in the places of the floats of its defaults that are not finite.
So what is stored equals the definition if and only if there are none of these, and then nothing at
all is changed. -/
theorem stored_again {target : Target} {text : List UInt8} (h : ofText target text = .ok d) :
    d.target = target ∧
      (∀ indent, ofText d.target (Text.Utf8.encode (d.toText indent)) =
        .ok (d.mapDefaults Value.onlyFinite)) ∧
      ofValue d.target d.toValue = .ok (d.mapDefaults Value.onlyFinite) ∧
      ((d.mapDefaults Value.onlyFinite).same d = true ↔ d.FiniteDefaults) ∧
      (d.FiniteDefaults → d.mapDefaults Value.onlyFinite = d) := by
  obtain ⟨hdecoded, htarget⟩ := decoded_of_text h
  exact ⟨htarget, fun indent => (hdecoded.reads indent).1, (hdecoded.reads none).2,
    hdecoded.same_iff, mapDefaults_of_finite⟩

/-- The document of an event, with a text and a float as defaults. -/
def eventText : List UInt8 :=
  Text.Utf8.encode ("\x7b\"type\":\"object\",\"fields\":\x7b" ++
    "\"at\":\x7b\"type\":\"datetime\",\"default\":\"2024-03-07T11:38:47.5+02:00\"\x7d," ++
    "\"rate\":\x7b\"type\":\"number\",\"default\":[0.1,-2.5e-3]\x7d\x7d\x7d")

/-- An event is stored again as it was read. -/
theorem stored_again_event :
    ∃ d, ofText .schema eventText = .ok d ∧ d.fields.length = 2 ∧ d.FiniteDefaults ∧
      (∀ indent, ofText .schema (Text.Utf8.encode (d.toText indent)) = .ok d) ∧
      ofValue .schema d.toValue = .ok d := by
  have hrun : (ofText .schema eventText).toOption.map (fun d =>
      (d.fields.length, (d.mapDefaults Value.onlyFinite).same d)) = some (2, true) := by
    decide +kernel
  cases htext : ofText .schema eventText with
  | error refusal => rw [htext] at hrun; cases hrun
  | ok d =>
    rw [htext] at hrun
    obtain ⟨hlength, hsame⟩ := Prod.mk.inj (Option.some.inj hrun)
    obtain ⟨htarget, hagain, hvalue, hiff, hid⟩ := stored_again htext
    have hfinite := hiff.mp hsame
    rw [htarget, hid hfinite] at hagain hvalue
    exact ⟨d, rfl, hlength, hfinite, hagain, hvalue⟩

/-- The document of a number with a default beyond the range of floats. -/
def boundText : List UInt8 :=
  Text.Utf8.encode ("\x7b\"type\":\"object\",\"fields\":\x7b" ++
    "\"a\":\x7b\"type\":\"number\",\"default\":1e400\x7d\x7d\x7d")

/-- A default beyond the range of floats is read as an infinity and stored as none at all, in the text
as in the dictionary. -/
theorem bound_not_stored :
    ∃ d, ofText .schema boundText = .ok d ∧
      (∃ again, ofText .schema (Text.Utf8.encode (d.toText none)) = .ok again ∧
        again.same d = false) ∧
      ∃ again, ofValue .schema d.toValue = .ok again ∧ again.same d = false := by
  have hrun : (ofText .schema boundText).toOption.map (fun d =>
      (d.mapDefaults Value.onlyFinite).same d) = some false := by
    decide +kernel
  cases htext : ofText .schema boundText with
  | error refusal => rw [htext] at hrun; cases hrun
  | ok d =>
    rw [htext] at hrun
    have hsame := Option.some.inj hrun
    obtain ⟨hdecoded, htarget⟩ := decoded_of_text htext
    obtain ⟨hagain, hvalue⟩ := hdecoded.reads none
    rw [htarget] at hagain hvalue
    exact ⟨d, rfl, ⟨_, hagain, hsame⟩, _, hvalue, hsame⟩

end Definition
end Schematic
