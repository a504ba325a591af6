import Schematic.Proofs.Outcome
import Schematic.Proofs.Time.Timestamp
import Schematic.Tag

/-!
What a tag can make of a field.  Only the description of the schema changes, and a default is a
value of the kind of the schema: literals are read by the strict rules, so that a number is finite
and a point in time has an offset of whole minutes.  `parse_extends` carries this through all the
pairs of a tag.
-/

namespace Schematic

/-- The defaults that a field of a kind can have; null if there is none. -/
inductive Kind.HasDefault : Kind → Value → Prop
  | absent (kind : Kind) : HasDefault kind .null
  | boolean (b : Bool) : HasDefault .boolean (.bool b)
  | string (s : String) : HasDefault .string (.str s)
  | integer (i : Int) : HasDefault .integer (.int i)
  | number {x : Binary64} (h : x.isFinite = true) : HasDefault .number (.float x)
  | datetime {d : DateTime} {offset : Time.Offset} (hoffset : d.offset = some offset)
      (hminutes : offset.IsWholeMinutes) : HasDefault .datetime (.datetime d)

/-- A field as a tag leaves it: the schema with another description at most, and a default of its
kind. -/
structure Field.Extends (schema : Schema) (field : Field) : Prop where
  shape : field.schema = { schema with description := field.schema.description }
  default : schema.kind.HasDefault field.default

theorem Field.extends_toField (schema : Schema) : Field.Extends schema schema.toField := by
  obtain ⟨kind, description, fields, elements⟩ := schema
  exact ⟨rfl, .absent kind⟩

namespace Coercion

theorem isFinite_of_parseFloat {text : String} {x : Binary64} (h : parseFloat text = .ok x) :
    x.isFinite = true := by
  unfold parseFloat at h
  simp only at h
  split at h
  next => cases h
  next =>
    split at h
    next => cases h
    next y _ =>
      by_cases hfinite : y.isFinite = true
      · rw [if_pos hfinite] at h
        exact Except.ok.inj h ▸ hfinite
      · rw [if_neg hfinite] at h
        cases h

theorem hasDefault_of_parse {rule : Coercion} {text : String} {value : Value}
    (h : rule.parse text = .ok value) : rule.kind.HasDefault value := by
  cases rule with
  | boolean =>
    obtain ⟨b, -, rfl⟩ := Outcome.map_eq_ok h
    exact .boolean b
  | integer =>
    obtain ⟨i, -, rfl⟩ := Outcome.map_eq_ok h
    exact .integer i
  | number =>
    obtain ⟨x, hx, rfl⟩ := Outcome.map_eq_ok h
    exact .number (isFinite_of_parseFloat hx)
  | datetime =>
    obtain ⟨d, hd, rfl⟩ := Outcome.map_eq_ok h
    obtain ⟨offset, hoffset, hminutes⟩ := offset_of_parseDateTime hd
    exact .datetime hoffset hminutes

theorem kind_of_ofKind? {kind : Kind} {rule : Coercion} (h : ofKind? kind = some rule) :
    rule.kind = kind := by
  cases kind <;> cases h <;> rfl

end Coercion

namespace Tag

theorem hasDefault_of_defaultOf {kind : Kind} {text : String} {value : Value}
    (h : defaultOf kind (.str text) = .ok value) : kind.HasDefault value := by
  unfold defaultOf at h
  by_cases hstring : kind = .string
  · rw [if_pos hstring] at h
    subst hstring
    exact Except.ok.inj h ▸ .string text
  · rw [if_neg hstring] at h
    cases hrule : Coercion.ofKind? kind with
    | none => rw [hrule] at h; cases h
    | some rule =>
      rw [hrule] at h
      have hparse := Coercion.hasDefault_of_parse (Outcome.mapError_eq_ok h)
      rwa [Coercion.kind_of_ofKind? hrule] at hparse

/-- One key changes nothing but what it names. -/
theorem apply_extends {schema : Schema} {field field' : Field} {key value : String}
    (hfield : Field.Extends schema field) (h : apply field key value = .ok field') :
    Field.Extends schema field' := by
  have hshape := hfield.shape
  unfold apply at h
  split at h
  next =>
    obtain rfl := Except.ok.inj h
    refine ⟨?_, hfield.default⟩
    show { field.schema with description := value } = _
    rw [hshape]
  next =>
    split at h
    next =>
      split at h
      next =>
        obtain rfl := Except.ok.inj h
        exact ⟨hshape, hfield.default⟩
      next => cases h
    next =>
      split at h
      next =>
        obtain rfl := Except.ok.inj h
        exact ⟨hshape, hfield.default⟩
      next =>
        split at h
        next =>
          obtain ⟨default, hdefault, rfl⟩ := Outcome.map_eq_ok h
          refine ⟨hshape, ?_⟩
          have hkind : field.schema.kind = schema.kind := by rw [hshape]
          exact hkind ▸ hasDefault_of_defaultOf hdefault
        next => cases h

theorem applyPair_extends [Text.Repertoire] {schema : Schema} {field field' : Field} {pair : Pair}
    (hfield : Field.Extends schema field) (h : applyPair field pair = .ok field') :
    Field.Extends schema field' := by
  unfold applyPair at h
  split at h
  next => cases h
  next => exact apply_extends hfield h

/-- A whole tag leaves a field of the schema that it was given. -/
theorem parse_extends [Text.Repertoire] {schema : Schema} {field field' : Field} {text : String}
    (hfield : Field.Extends schema field) (h : parse field text = .ok field') :
    Field.Extends schema field' := by
  unfold parse at h
  obtain ⟨last, hlast, hend⟩ := Outcome.bind_eq_ok h
  have hextends := Outcome.foldlM_invariant (P := Field.Extends schema)
    (fun _ _ _ => applyPair_extends) hfield hlast
  split at hend
  next => exact Except.ok.inj hend ▸ hextends
  next => cases hend

end Tag
end Schematic
