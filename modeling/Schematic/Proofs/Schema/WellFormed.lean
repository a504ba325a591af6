import Schematic.Proofs.Derivation.Describes
import Schematic.Proofs.Validation.Acceptance

/-!
Well-formed schemas: the names of the fields are distinct, fields stand in objects and elements in
arrays only, and every default is one of its kind.  Derived schemas are well formed, and a default
in one of them is accepted by the schema of its field.
-/

namespace Schematic

inductive Schema.WellFormed : Schema → Prop
  | intro {schema : Schema} (hnames : (schema.fields.map Prod.fst).Nodup)
      (hobject : schema.fields ≠ [] → schema.kind = .object)
      (harray : schema.elements ≠ none → schema.kind = .array)
      (hdefaults : ∀ p ∈ schema.fields, p.2.schema.kind.HasDefault p.2.default)
      (hfields : ∀ p ∈ schema.fields, WellFormed p.2.schema)
      (helements : ∀ element, schema.elements = some element → WellFormed element) :
      WellFormed schema

namespace Schema

theorem WellFormed.nodup {schema : Schema} (h : schema.WellFormed) :
    (schema.fields.map Prod.fst).Nodup := by
  cases h with
  | intro hnames => exact hnames

theorem WellFormed.hasDefault {schema : Schema} (h : schema.WellFormed) {p : String × Field}
    (hp : p ∈ schema.fields) : p.2.schema.kind.HasDefault p.2.default := by
  cases h with
  | intro _ _ _ hdefaults => exact hdefaults p hp

theorem WellFormed.field {schema : Schema} (h : schema.WellFormed) {p : String × Field}
    (hp : p ∈ schema.fields) : p.2.schema.WellFormed := by
  cases h with
  | intro _ _ _ _ hfields => exact hfields p hp

theorem WellFormed.element {schema element : Schema} (h : schema.WellFormed)
    (helement : schema.elements = some element) : element.WellFormed := by
  cases h with
  | intro _ _ _ _ _ helements => exact helements element helement

theorem wellFormed_ofKind (kind : Kind) : (ofKind kind).WellFormed :=
  .intro List.nodup_nil (fun h => absurd rfl h) (fun h => absurd rfl h) nofun nofun nofun

theorem wellFormed_arrayOf {element : Schema} (h : element.WellFormed) :
    (arrayOf element).WellFormed :=
  .intro List.nodup_nil (fun h => absurd rfl h) (fun _ => rfl) nofun nofun
    (fun _ helement => Option.some.inj helement ▸ h)

theorem WellFormed.describe {schema : Schema} (h : schema.WellFormed) (description : String) :
    { schema with description }.WellFormed := by
  cases h with
  | intro hnames hobject harray hdefaults hfields helements =>
    exact .intro hnames hobject harray hdefaults hfields helements

theorem wellFormed_objectOf {fields : List (String × Field)}
    (hnames : (fields.map Prod.fst).Nodup)
    (h : ∀ p ∈ fields, p.2.schema.WellFormed ∧ p.2.schema.kind.HasDefault p.2.default) :
    (objectOf fields).WellFormed :=
  .intro hnames (fun _ => rfl) (fun h => absurd rfl h) (fun p hp => (h p hp).2)
    (fun p hp => (h p hp).1) nofun

end Schema

theorem Field.Extends.wellFormed {schema : Schema} {field : Field}
    (hfield : Field.Extends schema field) (h : schema.WellFormed) : field.schema.WellFormed := by
  rw [hfield.shape]
  exact h.describe _

theorem Field.Extends.hasDefault {schema : Schema} {field : Field}
    (hfield : Field.Extends schema field) : field.schema.kind.HasDefault field.default := by
  rw [hfield.shape]
  exact hfield.default

theorem Registry.Describes.wellFormed [Text.Repertoire] {registry : Registry} {type : TypeExpr}
    {schema : Schema} (h : registry.Describes type schema) : schema.WellFormed := by
  induction h with
  | scalar s => exact Schema.wellFormed_ofKind _
  | openArray form => exact Schema.wellFormed_ofKind _
  | array _ ih => exact Schema.wellFormed_arrayOf ih
  | mapping form arguments => exact Schema.wellFormed_ofKind _
  | annotated _ _ ih => exact ih
  | @record ref c fields schemaOf memberOf _ _ _ htags ih =>
    refine Schema.wellFormed_objectOf (Value.nodup_putMembers List.nodup_nil) fun p hp => ?_
    rcases Value.mem_putMembers hp with hmem | hnil
    · obtain ⟨f, hf, rfl⟩ := List.mem_map.mp hmem
      have hextends := Tag.parse_extends (Field.extends_toField _) (htags f hf)
      exact ⟨hextends.wellFormed (ih f hf), hextends.hasDefault⟩
    · cases hnil

/-! ## Defaults -/

/-- A default is of its kind. -/
theorem Kind.HasDefault.holds {kind : Kind} {value : Value} (h : kind.HasDefault value)
    (hpresent : value ≠ .null) :
    kind.Holds value ∧ kind ≠ .object ∧ kind ≠ .array := by
  cases h with
  | absent => exact absurd rfl hpresent
  | boolean b => exact ⟨.boolean b, nofun, nofun⟩
  | string s => exact ⟨.string s, nofun, nofun⟩
  | integer i => exact ⟨.integer i, nofun, nofun⟩
  | number _ => exact ⟨.number _, nofun, nofun⟩
  | datetime _ _ => exact ⟨.datetime _, nofun, nofun⟩

/-- What is loaded in the place of an absent member is accepted. -/
theorem Kind.HasDefault.accepts {schema : Schema} {value : Value}
    (h : schema.kind.HasDefault value) (hpresent : value ≠ .null) : schema.Accepts value := by
  obtain ⟨hholds, hobject, harray⟩ := h.holds hpresent
  exact .scalar hobject harray hholds

end Schematic
