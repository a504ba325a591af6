import Schematic.Schema

/-!
Induction over schemas.  A schema holds others at its fields and its elements, inside lists and
options, so the recursor that comes with the type asks for a property of each of those as well.
`Schema.inductionOn` asks only for the step from the parts of a schema to the schema.
-/

namespace Schematic
namespace Schema

theorem sizeOf_field_lt {schema : Schema} {p : String × Field} (h : p ∈ schema.fields) :
    sizeOf p.2.schema < sizeOf schema := by
  obtain ⟨kind, description, fields, elements⟩ := schema
  obtain ⟨name, inner, required, default, tags⟩ := p
  have hlist : sizeOf (name, (⟨inner, required, default, tags⟩ : Field)) < sizeOf fields :=
    List.sizeOf_lt_of_mem h
  have hpair : sizeOf inner < sizeOf (name, (⟨inner, required, default, tags⟩ : Field)) := by
    simp only [Prod.mk.sizeOf_spec, FieldOf.mk.sizeOf_spec]
    omega
  simp only [Schema.mk.sizeOf_spec]
  omega

theorem sizeOf_elements_lt {schema element : Schema} (h : schema.elements = some element) :
    sizeOf element < sizeOf schema := by
  obtain ⟨kind, description, fields, elements⟩ := schema
  subst h
  simp only [Schema.mk.sizeOf_spec, Option.some.sizeOf_spec]
  omega

/-- A property of all schemas holds if every schema has it whose fields and elements do. -/
@[elab_as_elim]
theorem inductionOn {motive : Schema → Prop} (schema : Schema)
    (step : ∀ schema : Schema, (∀ p ∈ schema.fields, motive p.2.schema) →
      (∀ element, schema.elements = some element → motive element) → motive schema) :
    motive schema :=
  step schema (fun p _hp => inductionOn p.2.schema step)
    (fun element _helement => inductionOn element step)
termination_by sizeOf schema
decreasing_by
  · exact sizeOf_field_lt _hp
  · exact sizeOf_elements_lt _helement

end Schema
end Schematic
