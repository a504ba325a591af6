import Schematic.Proofs.Json.Depth
import Schematic.Proofs.Schema.Storage
import Schematic.Proofs.Tag.LastPair

/-!
Derived schemas as texts.  Integers in the defaults of a derived schema come from literals, which
have no more digits than a text can hold, and floats are finite.  So it is the depth of its document
alone that decides whether a derived schema is read back from its text, and then the text and the
dictionary are read as the same schema, and the text is decoded as the dictionary.
-/

namespace Schematic

/-- A value that is no integer with more digits than a text can hold. -/
def Value.IsShort (value : Value) : Prop :=
  ∀ i, value = .int i → i.natAbs < 10 ^ Json.maxIntegerDigits

/-! ## Integers of defaults -/

theorem Coercion.natAbs_lt_of_parseInt {text : String} {i : Int} (h : parseInt text = .ok i) :
    i.natAbs < 10 ^ Json.maxIntegerDigits := by
  unfold parseInt at h
  cases hread : Number.readInt? text.toList with
  | none => rw [hread] at h; cases h
  | some p =>
    obtain ⟨negative, digits⟩ := p
    simp only [hread] at h
    split at h
    next => cases h
    next hlength =>
      obtain rfl := Except.ok.inj h
      unfold Number.readInt? at hread
      dsimp only at hread
      split at hread
      next => cases hread
      next =>
        obtain ⟨found, hfound, heq⟩ := Option.map_eq_some_iff.mp hread
        obtain rfl : found = digits := (Prod.mk.inj heq).2
        have hlt : Text.digitsValue found < 10 ^ Json.maxIntegerDigits :=
          lt_of_lt_of_le (Text.digitsValue_lt (Text.lt_ten_of_asciiDigits? hfound))
            (Nat.pow_le_pow_right (by decide) (Nat.not_lt.mp hlength))
        unfold Number.signed
        split
        · rw [Int.natAbs_neg]
          exact hlt
        · exact hlt

namespace Tag

theorem isShort_of_defaultOf {kind : Kind} {text : String} {value : Value}
    (h : defaultOf kind (.str text) = .ok value) : value.IsShort := by
  rintro i rfl
  unfold defaultOf at h
  split at h
  next => cases h
  next =>
    split at h
    next rule _ =>
      have hparse : rule.parse text = .ok (.int i) := Outcome.mapError_eq_ok h
      cases rule with
      | integer =>
        obtain ⟨found, hfound, heq⟩ := Outcome.map_eq_ok hparse
        obtain rfl := Value.int.inj heq
        exact Coercion.natAbs_lt_of_parseInt hfound
      | boolean | number | datetime =>
        obtain ⟨_, -, heq⟩ := Outcome.map_eq_ok hparse
        cases heq
    next => cases h

/-- No tag gives a default that is too long. -/
theorem isShort_of_parse [Text.Repertoire] {schema : Schema} {field : Field} {text : String}
    (h : parse schema.toField text = .ok field) : field.default.IsShort := by
  obtain ⟨pairs, -, happlies⟩ := parse_eq_ok_iff.mp h
  generalize hdefault : field.default = default
  have hlast := (lastWins_of_applies happlies).default
  rw [hdefault] at hlast
  cases hlast with
  | kept => exact nofun
  | written _ _ hliteral => exact isShort_of_defaultOf hliteral

end Tag

theorem Registry.Describes.isShort [Text.Repertoire] {registry : Registry} {type : TypeExpr}
    {schema node : Schema}
    (h : registry.Describes type schema) (hnode : schema.Node node) {p : String × Field}
    (hp : p ∈ node.fields) : p.2.default.IsShort := by
  obtain ⟨_, _, -, hdescribes, hfields, -⟩ := h.node hnode
  rw [hfields] at hp
  obtain ⟨f, _, horigin, -⟩ := hdescribes.origin hp
  obtain ⟨_, -, hparse⟩ := horigin.becomes.field
  exact Tag.isShort_of_parse hparse

/-! ## Documents of derived schemas -/

namespace Decode

variable {room : Nat} {schema : Schema}

theorem storable_shown {kind : Kind} {default : Value} (h : kind.HasDefault default)
    (hshort : default.IsShort) : (shownDefault default).Storable room := by
  cases h with
  | absent => exact .null
  | boolean b => exact .bool b
  | string s => exact .str s
  | integer i => exact .int (hshort i rfl)
  | @number x hfinite =>
    show (Schema.encodeNumber x).toValue.Storable room
    rw [Schema.encodeNumber, if_pos hfinite]
    exact .float x
  | @datetime d => exact .str d.rfc3339

/-- A well-formed schema with defaults that are not too long could have been read from a document
with twice its depth. -/
theorem decoded_of_wellFormed (h : schema.WellFormed)
    (hshort : ∀ node, schema.Node node → ∀ p ∈ node.fields, p.2.default.IsShort)
    (hroom : 2 * schema.depth + 2 ≤ room) : Decoded room schema := by
  induction h generalizing room with
  | @intro schema hnames _ _ hdefaults _ _ ihfields ihelements =>
    have hdepth : ∀ p ∈ schema.fields, p.2.schema.depth < schema.depth :=
      fun p hp => Schema.depth_field_lt hp
    refine .intro (by omega) hnames (fun hne => ?_) (fun p hp => ⟨?_, fun _ => ?_⟩)
      (fun p hp => ihfields p hp (fun node hnode => ?_) ?_)
      fun element helement => ihelements element helement (fun node hnode => ?_) ?_
    · omega
    · exact ⟨shownDefault p.2.default,
        storable_shown (hdefaults p hp) (hshort schema .root p hp), restore_shown (hdefaults p hp)⟩
    · have hlt := hdepth p hp
      omega
    · exact hshort node (Schema.node_iff.mpr (.inr (.inl ⟨p, hp, hnode⟩)))
    · have hlt := hdepth p hp
      omega
    · exact hshort node (Schema.node_iff.mpr (.inr (.inr ⟨element, helement, hnode⟩)))
    · have hlt := Schema.depth_element_lt helement
      omega

end Decode

namespace Registry

variable {registry : Registry} {type : TypeExpr} {schema : Schema}

theorem decoded_of_derive [Text.Repertoire] (h : registry.derive type = .ok schema) :
    Decode.Decoded (2 * schema.depth + 2) schema := by
  have hdescribes := describes_of_derive h
  exact Decode.decoded_of_wellFormed hdescribes.wellFormed
    (fun _ hnode _ hp => hdescribes.isShort hnode hp) (Nat.le_refl _)

/-- The document of a derived schema can be written and read up to the depth that a text can
have. -/
theorem limited_of_derive [Text.Repertoire] (h : registry.derive type = .ok schema)
    (hdepth : schema.encode.depth ≤ Json.maxDepth) :
    schema.encode.Limited (fun x => x.isFinite = true) Json.maxDepth :=
  (decoded_of_derive h).limited.of_depth hdepth

/-- A derived schema is read back from its text if and only if its document is not too deep. -/
theorem derived_text_iff [Text.Repertoire] (h : registry.derive type = .ok schema)
    (indent : Option Nat) :
    Definition.ofText .schema (Text.Utf8.encode ((Definition.schema schema).toText indent)) =
        .ok (.schema schema) ↔
      schema.encode.depth ≤ Json.maxDepth := by
  constructor
  · intro hread
    cases (Definition.decoded_of_text hread).1 with
    | schema hdecoded => exact hdecoded.limited.depth_le
  · intro hdepth
    have htext : Json.read true (Text.Utf8.encode ((Definition.schema schema).toText indent)) =
        .ok schema.encode := Json.read_text indent (limited_of_derive h hdepth) true
    have hrestores := Decode.restores_of_wellFormed (describes_of_derive h).wellFormed
    have hread : Decode.schemaOf .json Decode.maxRoom schema.encode.toValue =
        .ok (schema.mapDefaults id) :=
      (@Decode.of_encode_restored .json Decode.maxRoom _ schema hrestores nofun).1
    unfold Definition.ofText
    rw [htext]
    show (Decode.schemaOfJson schema.encode).map Definition.schema = _
    rw [Decode.schemaOfJson_encode (decoded_of_derive h).distinctNames, hread,
      Schema.mapDefaults_id]
    rfl

/-- A derived schema whose document is not too deep for a text is read back from its text, with any
indentation, and from its dictionary, and its text is decoded as its dictionary. -/
theorem read_derived_text [Text.Repertoire] (h : registry.derive type = .ok schema)
    (hdepth : schema.encode.depth ≤ Json.maxDepth) (indent : Option Nat) :
    Definition.ofText .schema (Text.Utf8.encode ((Definition.schema schema).toText indent)) =
        .ok (.schema schema) ∧
      Definition.ofValue .schema (Definition.schema schema).toValue = .ok (.schema schema) ∧
      decode (Text.Utf8.encode ((Definition.schema schema).toText indent)) =
        .ok (Definition.schema schema).toValue := by
  have htext := (derived_text_iff h indent).mpr hdepth
  refine ⟨htext, (read_derived_schema h).2 ?_, ?_⟩
  · cases (Definition.decoded_of_text htext).1 with
    | schema hdecoded => exact Nat.lt_trans hdecoded.depth_lt (by decide)
  · exact Json.decode_text indent (limited_of_derive h hdepth)

/-- The text of the schema of events, with a point in time as a default and arrays of arrays. -/
theorem read_derived_text_events :
    ∃ schema, events.derive (.record eventRef) = .ok schema ∧ schema.encode.depth = 5 ∧
      Definition.ofText .schema (Text.Utf8.encode ((Definition.schema schema).toText (some 2))) =
        .ok (.schema schema) ∧
      Definition.ofValue .schema (Definition.schema schema).toValue = .ok (.schema schema) ∧
      decode (Text.Utf8.encode ((Definition.schema schema).toText (some 2))) =
        .ok (Definition.schema schema).toValue := by
  have hrun : (events.derive (.record eventRef)).map (fun schema => schema.encode.depth) =
      .ok 5 := by
    decide +kernel
  obtain ⟨schema, hderive, hdepth⟩ := Outcome.map_eq_ok hrun
  exact ⟨schema, hderive, hdepth, read_derived_text hderive (by rw [hdepth]; decide) (some 2)⟩

end Registry
end Schematic
