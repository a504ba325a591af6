import Schematic.Loading
import Schematic.Proofs.Derivation.Members
import Schematic.Proofs.Schema.RoundTrip

/-!
The nodes of derived schemas.  A node is the schema of a type inside the type, with another
description at most, and every member of a node is what a field of a record becomes.  So whatever
well-formedness says of a schema holds at all its nodes, and the default of a member was read from
the tag of a field: it is accepted by the schema of the member, and loaded as it stands.
-/

namespace Schematic

/-- A schema is a part of another one, at any depth. -/
inductive Schema.Node (schema : Schema) : Schema → Prop
  | root : Node schema schema
  | field {node : Schema} {p : String × Field} (h : Node schema node) (hp : p ∈ node.fields) :
      Node schema p.2.schema
  | element {node element : Schema} (h : Node schema node)
      (helement : node.elements = some element) : Node schema element

theorem Schema.WellFormed.node {schema node : Schema} (h : schema.WellFormed)
    (hnode : schema.Node node) : node.WellFormed := by
  induction hnode with
  | root => exact h
  | field _ hp ih => exact ih.field hp
  | element _ helement ih => exact ih.element helement

theorem Kind.HasDefault.load {schema : Schema} {value : Value}
    (h : schema.kind.HasDefault value) (hpresent : value ≠ .null) (registry : Registry)
    (type : TypeExpr) : schema.load registry value type = pure value := by
  obtain ⟨kind, description, fields, elements⟩ := schema
  cases h with
  | absent => exact absurd rfl hpresent
  | boolean | string | integer | number | datetime => rfl

theorem Kind.HasDefault.eq_null {kind : Kind} {value : Value} (h : kind.HasDefault value)
    (hkind : kind = .object ∨ kind = .array) : value = .null := by
  rcases hkind with rfl | rfl
  · cases h with | absent => rfl
  · cases h with | absent => rfl

namespace Registry

variable {registry : Registry}

/-- A member comes from a field of a record inside a type. -/
structure Origin [Text.Repertoire] (registry : Registry) (type : TypeExpr) (member : String × Field)
    (f : RecordField) : Prop where
  record : ∃ ref c fields, registry.Within (.record ref) type ∧ registry.find? ref = some c ∧
    registry.fields c = .ok fields ∧ f ∈ fields
  becomes : registry.Becomes f member

theorem Origin.within [Text.Repertoire] {type inner : TypeExpr} {member : String × Field}
    {f : RecordField} (h : registry.Origin inner member f) (hinner : registry.Within inner type) :
    registry.Origin type member f := by
  obtain ⟨ref, c, fields, hwithin, hfind, hfields, hf⟩ := h.record
  exact ⟨⟨ref, c, fields, hwithin.trans hinner, hfind, hfields, hf⟩, h.becomes⟩

/-- A member of a schema comes from a field, whose type has the schema of the member but for the
description. -/
theorem Describes.origin [Text.Repertoire] {type : TypeExpr} {schema : Schema}
    (h : registry.Describes type schema) {p : String × Field} (hp : p ∈ schema.fields) :
    ∃ f inner, registry.Origin type p f ∧ registry.Within f.hint type ∧
      registry.Describes f.hint inner ∧
      p.2.schema = { inner with description := p.2.schema.description } := by
  induction h with
  | scalar | openArray | array | mapping => cases hp
  | annotated extras _ ih =>
    obtain ⟨f, inner, horigin, hwithin, hdescribes, hshape⟩ := ih hp
    exact ⟨f, inner, horigin.within (.single (.base _ extras)), hwithin.tail (.base _ extras),
      hdescribes, hshape⟩
  | @record ref c fields schemaOf memberOf hfind hfields hhints htags _ =>
    rcases Value.mem_putMembers hp with hmem | hnil
    · obtain ⟨f, hf, rfl⟩ := List.mem_map.mp hmem
      have hbecomes : registry.Becomes f (memberName f.name, memberOf f) :=
        ⟨rfl, schemaOf f, (hhints f hf).ofType_eq, htags f hf⟩
      exact ⟨f, schemaOf f, ⟨⟨ref, c, fields, .refl, hfind, hfields, hf⟩, hbecomes⟩,
        .single (.hint hfind hfields hf), hhints f hf,
        (Tag.parse_extends (Field.extends_toField _) (htags f hf)).shape⟩
    · cases hnil

theorem Describes.element [Text.Repertoire] {type : TypeExpr} {schema element : Schema}
    (h : registry.Describes type schema) (helement : schema.elements = some element) :
    ∃ inner, registry.Within inner type ∧ registry.Describes inner element := by
  induction h with
  | scalar | openArray | mapping | record => cases helement
  | @array form inner schema hinner _ =>
    obtain rfl := Option.some.inj helement
    exact ⟨inner, .single (.element form inner), hinner⟩
  | annotated extras _ ih =>
    obtain ⟨inner, hwithin, hdescribes⟩ := ih helement
    exact ⟨inner, hwithin.tail (.base _ extras), hdescribes⟩

/-- A node has the parts of the schema of a type inside the type. -/
theorem Describes.node [Text.Repertoire] {type : TypeExpr} {schema node : Schema}
    (h : registry.Describes type schema) (hnode : schema.Node node) :
    ∃ inner described, registry.Within inner type ∧ registry.Describes inner described ∧
      node.fields = described.fields ∧ node.elements = described.elements := by
  induction hnode with
  | root => exact ⟨type, schema, .refl, h, rfl, rfl⟩
  | @field node p _ hp ih =>
    obtain ⟨inner, described, hwithin, hdescribes, hfields, -⟩ := ih
    rw [hfields] at hp
    obtain ⟨f, schema', -, hhint, hschema', hshape⟩ := hdescribes.origin hp
    exact ⟨f.hint, schema', hhint.trans hwithin, hschema', by rw [hshape], by rw [hshape]⟩
  | @element node element _ helement ih =>
    obtain ⟨inner, described, hwithin, hdescribes, -, helements⟩ := ih
    rw [helements] at helement
    obtain ⟨inner', hinner', hdescribes'⟩ := hdescribes.element helement
    exact ⟨inner', element, hinner'.trans hwithin, hdescribes', rfl, rfl⟩

/-- At every node of a derived schema, fields stand in objects and elements in arrays only.  Every
member comes from a field of a record; it has no default if it is an object or an array, and any
default that it has is of its kind, accepted by its schema, and loaded as it stands into the type of
that field. -/
theorem derived_nodes [Text.Repertoire] {type : TypeExpr} {schema node : Schema}
    (h : registry.derive type = .ok schema) (hnode : schema.Node node) :
    (node.fields ≠ [] → node.kind = .object) ∧
      (node.elements ≠ none → node.kind = .array) ∧
      ∀ p ∈ node.fields,
        (p.2.schema.kind = .object ∨ p.2.schema.kind = .array → p.2.default = .null) ∧
          ∃ f, registry.Origin type p f ∧
            (p.2.default ≠ .null →
              p.2.schema.kind.HasDefault p.2.default ∧
                p.2.schema.validate p.2.default = .ok () ∧
                p.2.schema.load registry p.2.default f.hint = pure p.2.default) := by
  have hdescribes := describes_of_derive h
  have hwell : node.WellFormed := hdescribes.wellFormed.node hnode
  refine ⟨?_, ?_, fun p hp => ?_⟩
  · cases hwell with
    | intro _ hobject => exact hobject
  · cases hwell with
    | intro _ _ harray => exact harray
  · have hdefault := hwell.hasDefault hp
    obtain ⟨inner, described, hwithin, hinner, hfields, -⟩ := hdescribes.node hnode
    rw [hfields] at hp
    obtain ⟨f, -, horigin, -⟩ := hinner.origin hp
    refine ⟨hdefault.eq_null, f, horigin.within hwithin, fun hpresent => ?_⟩
    have haccepts : p.2.schema.Accepts p.2.default := hdefault.accepts hpresent
    exact ⟨hdefault, (Schema.validate_eq_ok_iff _ _).mpr haccepts,
      hdefault.load hpresent registry f.hint⟩

theorem derived_nodes_events :
    ∃ schema, events.derive (.record eventRef) = .ok schema ∧
      ∃ p ∈ schema.fields, p.2.default ≠ .null ∧ p.2.schema.validate p.2.default = .ok () ∧
        ∃ f, events.Origin (.record eventRef) p f ∧
          p.2.schema.load events p.2.default f.hint = pure p.2.default := by
  have hrun : (events.derive (.record eventRef)).map (fun schema =>
      schema.fields.any fun p => !p.2.default.isNull) = .ok true := by
    decide +kernel
  obtain ⟨schema, hderive, hdefault⟩ := Outcome.map_eq_ok hrun
  obtain ⟨p, hp, hpresent⟩ := List.any_eq_true.mp hdefault
  have hnull : p.2.default ≠ .null := fun heq => by
    rw [heq] at hpresent
    cases hpresent
  obtain ⟨-, -, hmembers⟩ := derived_nodes hderive .root
  obtain ⟨-, f, horigin, hall⟩ := hmembers p hp
  obtain ⟨-, hvalid, hload⟩ := hall hnull
  exact ⟨schema, hderive, p, hp, hnull, hvalid, f, horigin, hload⟩

end Registry
end Schematic
