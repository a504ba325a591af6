import Schematic.Proofs.Record.Definition
import Schematic.Proofs.Record.Linearization
import Schematic.Proofs.TypeExpr.Settled
import Schematic.Record.Instance

/-!
Definitions of models in the places of data records.  Where both kinds accept the declarations, they
lead to registries whose records correspond, one by one: each model has the linearization of the data
record with the roots of models in the place of the root, and its fields in their order, with the types
and the defaults over models.

The correspondence is kept by each definition.  It is stated with the records that types may be written
with, `known`, since a declaration is defined before some of them.
-/

namespace Schematic

open Registry (recordModule)

variable {known : RecordRef → Prop}

/-! ## Fields -/

/-- A field that a data record and a model can both have, and that means the same in both: it takes
part in loading, without a tag of its own, and there is nothing to look up in its type.  A model takes
no value under the name of the argument for the model itself, and it copies every default, while a data
record shares most of them. -/
structure FieldDecl.IsCommon (known : RecordRef → Prop) (field : FieldDecl) : Prop where
  name : Registry.isModelField field.name = true
  free : field.name ≠ Registry.reservedMember
  copyable : ∀ v, field.default = some v → isCopied v = false → v.holdsView = false
  tag : field.tag = ""
  loaded : field.loaded = true
  settled : field.type.isSettled = true
  isOver : field.type.Over known

/-- The field of a model in the place of a field of a data record. -/
structure FieldDecl.IsModelled (known : RecordRef → Prop) (field : FieldDecl) (model : ModelField) :
    Prop where
  common : field.IsCommon known
  name : model.name = field.name
  default : model.default = field.default.map Value.withModels
  complete : model.isComplete = true
  type : ∃ hint, field.type.settledHint = .ok hint ∧ TypeExpr.IsModelled known hint model.type

/-- A data record that a model can be declared in the place of. -/
structure RecordDecl.IsCommon (known : RecordRef → Prop) (decl : RecordDecl) : Prop where
  kind : decl.kind = .data
  fields : ∀ field ∈ decl.fields, field.IsCommon known

namespace Registry

theorem isModelled_of_declaredField (hapart : ModelsApart known) {scope : Reference.Scope}
    {field : FieldDecl} (hcommon : field.IsCommon known) {model : ModelField}
    (h : declaredField scope field.asModel = .ok model) : field.IsModelled known model := by
  have hsettled : field.type.withModels.isSettled = true := by
    rw [TypeExpr.isSettled_withModels]
    exact hcommon.settled
  have hlookup : lookUp? scope field.type.withModels.nullAsClass =
      (field.type.withModels.settledHint.map some).mapError
        fun e => .reference (.formation e) := by
    unfold lookUp? Reference.resolve
    rw [TypeExpr.replace_of_settled _ (TypeExpr.settled_nullAsClass hsettled)]
    show _ = ((TypeExpr.reformed _).map some).mapError _
    cases TypeExpr.reformed field.type.withModels.nullAsClass <;> rfl
  unfold declaredField at h
  rw [show field.asModel.type = field.type.withModels from rfl,
    TypeExpr.asArgument_of_settled hsettled] at h
  obtain ⟨_, hargument, h⟩ := Outcome.bind_eq_ok h
  obtain rfl := Except.ok.inj hargument
  obtain ⟨type?, hfound, h⟩ := Outcome.bind_eq_ok h
  rw [hlookup] at hfound
  obtain ⟨type, htype, rfl⟩ := Outcome.map_eq_ok (Outcome.mapError_eq_ok hfound)
  obtain rfl := Except.ok.inj h
  exact ⟨hcommon, rfl, rfl, rfl, TypeExpr.settledHint_matches hapart hcommon.isOver type htype⟩

end Registry

/-! ## Records -/

/-- The model in the place of a data record that is declared by name. -/
structure RecordClass.IsModelled (known : RecordRef → Prop) (c model : RecordClass) : Prop where
  module : c.ref.module = recordModule
  kind : c.ref.kind = .data
  ref : model.ref = c.ref.asModel
  ancestry : model.ancestry = c.ancestry.flatMap (renamed RecordRef.asModel)
  rooted : ∃ above, c.ancestry = c.ref :: above ++ [.root] ∧ .root ∉ above
  own : ∀ field ∈ c.own, ∃ model, field.IsModelled known model
  fields : ∃ fields, c.dataFields = some fields ∧
    List.Forall₂ (FieldDecl.IsModelled known) fields model.modelFields
  noModel : c.modelFields = []
  noData : model.dataFields = none

/-- A record of a registry, and the one in its place where models are declared. -/
inductive RecordClass.Corresponds (known : RecordRef → Prop) : RecordClass → RecordClass → Prop
  | library {c : RecordClass} (h : c ∈ Registry.initial.classes) : Corresponds known c c
  | declared {c model : RecordClass} (h : c.IsModelled known model) : Corresponds known c model

namespace RecordClass

variable {c model : RecordClass}

/-- What holds of the two records of the library. -/
theorem forall_library {P : RecordClass → Prop} :
    (∀ c ∈ Registry.initial.classes, P c) ↔
      P ⟨Registry.schemaRef, Registry.schemaRef :: RecordKind.roots .model, [], none,
          Registry.schemaFields⟩ ∧
        P ⟨Registry.fieldRef, Registry.fieldRef :: Registry.schemaRef :: RecordKind.roots .model, [],
          none, Registry.schemaFields ++ Registry.fieldFields⟩ := by
  unfold Registry.initial
  rw [List.forall_mem_cons, List.forall_mem_singleton]

theorem IsModelled.root_mem (h : c.IsModelled known model) : RecordRef.root ∈ c.ancestry := by
  obtain ⟨above, habove, -⟩ := h.rooted
  rw [habove]
  exact List.mem_append_right _ (List.mem_singleton_self _)

theorem Corresponds.ref (h : c.Corresponds known model) : model.ref = c.ref.asModel := by
  cases h with
  | library h => exact (forall_library (P := fun c => c.ref = c.ref.asModel)).mpr ⟨rfl, rfl⟩ c h
  | declared h => exact h.ref

theorem Corresponds.kind (h : c.Corresponds known model) : model.ref.kind = .model := by
  cases h with
  | library h => exact (forall_library (P := fun c => c.ref.kind = .model)).mpr ⟨rfl, rfl⟩ c h
  | declared h => rw [h.ref, RecordRef.asModel_of_module h.module]

theorem Corresponds.isModel (h : c.Corresponds known model) : model.isModel = true := by
  cases h with
  | library h =>
    exact (forall_library (P := fun c => c.isModel = true)).mpr ⟨by decide, by decide⟩ c h
  | declared h =>
    unfold RecordClass.isModel
    rw [h.ancestry, List.contains_iff_mem, List.mem_flatMap]
    exact ⟨.root, h.root_mem, by decide⟩

theorem Corresponds.isModelled (h : c.Corresponds known model) (hmodule : c.ref.module = recordModule) :
    c.IsModelled known model := by
  cases h with
  | library h =>
    have hother := (forall_library (P := fun c => c.ref.module ≠ recordModule)).mpr
      ⟨by decide, by decide⟩
    exact absurd hmodule (hother c h)
  | declared h => exact h

/-- The roots are no records of a registry. -/
theorem Corresponds.module (h : c.Corresponds known model) :
    c.ref.module = recordModule ∨ c.ref.module = "jsonspec.spec" := by
  cases h with
  | library h =>
    exact .inr ((forall_library (P := fun c => c.ref.module = "jsonspec.spec")).mpr ⟨rfl, rfl⟩ c h)
  | declared h => exact .inl h.module

end RecordClass

namespace Registry

def Declares (registry : Registry) (ref : RecordRef) : Prop :=
  ref.module = recordModule ∧ ∃ c ∈ registry.classes, c.ref = ref

/-- A registry, and one with models in the places of the data records. -/
structure Corresponds (known : RecordRef → Prop) (registry models : Registry) : Prop where
  classes : List.Forall₂ (RecordClass.Corresponds known) registry.classes models.classes
  indexed : registry.Indexed
  ancestors : ∀ c ∈ registry.classes, c.ref.module = recordModule →
    ∀ ref ∈ c.ancestry, ref = .root ∨ registry.Declares ref

variable {registry models : Registry}

theorem Indexed.eq_of_asModel (h : registry.Indexed) {c d : RecordClass} (hc : c ∈ registry.classes)
    (hd : d ∈ registry.classes) (hmodel : c.ref.asModel = d.ref.asModel) : c = d :=
  h.eq_of_index hc hd (by rw [← RecordRef.asModel_index, hmodel, RecordRef.asModel_index])

namespace Corresponds

theorem eq_of_asModel (h : registry.Corresponds known models) {c d : RecordClass}
    (hc : c ∈ registry.classes) (hd : d ∈ registry.classes)
    (hmodel : c.ref.asModel = d.ref.asModel) : c = d :=
  h.indexed.eq_of_asModel hc hd hmodel

theorem find?_of_mem (h : registry.Corresponds known models) {c : RecordClass}
    (hc : c ∈ registry.classes) : registry.find? c.ref = some c := by
  have hsome : (registry.find? c.ref).isSome = true :=
    List.find?_isSome.mpr ⟨c, hc, decide_eq_true rfl⟩
  obtain ⟨found, hfound⟩ := Option.isSome_iff_exists.mp hsome
  have hfound' := List.mem_of_find?_eq_some hfound
  obtain rfl : found = c := h.indexed.eq_of_index hfound' hc (by rw [ref_of_find? hfound])
  exact hfound

theorem find?_asModel (h : registry.Corresponds known models) {c : RecordClass}
    (hc : c ∈ registry.classes) :
    ∃ model, models.find? c.ref.asModel = some model ∧ c.Corresponds known model := by
  obtain ⟨model, hmodel, hcorresponds⟩ := Outcome.exists_of_mem_left h.classes hc
  have hsome : (models.find? c.ref.asModel).isSome = true :=
    List.find?_isSome.mpr ⟨model, hmodel, decide_eq_true hcorresponds.ref⟩
  obtain ⟨found, hfound⟩ := Option.isSome_iff_exists.mp hsome
  obtain ⟨d, hd, hcorresponds'⟩ :=
    Outcome.exists_of_mem_right h.classes (List.mem_of_find?_eq_some hfound)
  have href : d.ref.asModel = c.ref.asModel := by
    rw [← hcorresponds'.ref, ref_of_find? hfound]
  obtain rfl := h.eq_of_asModel hd hc href
  exact ⟨found, hfound, hcorresponds'⟩

end Corresponds

end Registry
end Schematic
