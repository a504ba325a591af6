import Schematic.Proofs.Loading.Interchange
import Schematic.Proofs.Validation.Revision
import Schematic.Session

/-!
Sessions with data records, and with models in their places.  Of a record in a value, validation sees
only that it is of no kind, so values with the same contents pass or fail alike.  With the schemas and
the instances that correspond, this makes everything that comes of loading the same, up to the events.

The kinds are not the same everywhere.  A model has private names that are no fields, a field that it
inherits has the type that the nearest base gives it, where a data record has that of the nearest
declaration, it copies each default, and a bare declaration takes over no default of a model above it.
The runs at the end show the four differences.
-/

namespace Schematic

open Outcome (Alike)
open Value (SameContents)

/-! ## Validation -/

namespace Schema

/-- Validation does not tell a record in a value from the model in its place. -/
theorem validate_withModels (schema : Schema) (value : Value) :
    schema.validate value.withModels = schema.validate value := by
  induction schema using Schema.inductionOn generalizing value with
  | step schema ihfields ihelements =>
    have haccepts := Value.accepts_withModels schema.kind value
    cases schema.kind.shape value with
    | other hholds =>
      have hother : ¬ schema.kind.Holds value.withModels := by
        rwa [← Kind.accepts_iff, haccepts, Kind.accepts_iff]
      rw [validate_mismatch hother, validate_mismatch hholds]
    | scalar hobject harray hholds =>
      have hscalar : schema.kind.Holds value.withModels := by
        rwa [← Kind.accepts_iff, haccepts, Kind.accepts_iff]
      rw [validate_scalar hobject harray hscalar, validate_scalar hobject harray hholds]
    | @object entries hkind hentries =>
      have hentries' : value.withModels.entries? = some (Value.entriesWithModels entries) := by
        rw [Value.entries?_withModels, hentries]
        rfl
      rw [validate_object hkind hentries', validate_object hkind hentries]
      refine validateFields_congr fun p hp => ?_
      rw [Value.lookup_withModels, validateMember_eq, validateMember_eq, Value.isNull_withModels,
        ihfields p hp]
    | @array items hkind hitems =>
      have hitems' : value.withModels.items? = some (items.map Value.withModels) := by
        rw [Value.items?_withModels, hitems, ← Value.itemsWithModels_eq]
        rfl
      rw [validate_array hkind hitems', validate_array hkind hitems]
      cases helements : schema.elements with
      | none => rfl
      | some element => exact eachElement_map (ihelements element helements) 0 items

theorem validate_same {schema : Schema} {v w : Value} (h : v.SameContents w) :
    schema.validate v = schema.validate w := by
  rw [← validate_withModels, h, validate_withModels]

end Schema

/-! ## Sessions -/

namespace Session

variable {s s' : Session}

/-- What is asked first is derived. -/
theorem schemaFor_fresh [Text.Repertoire] (h : s.cache.entries = []) (type : TypeExpr) :
    (s.schemaFor type).1 = s.registry.derive type ∧
      (s.schemaFor type).2.1 = Event.ofDerivation type (s.registry.derive type) ∧
      (s.schemaFor type).2.2.registry = s.registry := by
  unfold schemaFor SchemaCache.get
  rw [h]
  split <;> exact ⟨rfl, rfl, rfl⟩

/-- What comes of two loads has the same contents, or both are stopped or refused for one reason. -/
abbrev SameLoaded : Loaded → Loaded → Prop :=
  Alike (Alike SameContents)

variable {v w : Value} {type : TypeExpr}

theorem validateAndLoad_models (h : s.registry.SeenAs s'.registry) (schema : Schema)
    (hvalue : v.SameContents w) (htype : type.Over s.registry.Holds) :
    SameLoaded (s.validateAndLoad schema v type).1
        (s'.validateAndLoad schema w type.withModels).1 ∧
      (s.validateAndLoad schema v type).2 = (s'.validateAndLoad schema w type.withModels).2 := by
  unfold validateAndLoad
  rw [Schema.validate_same hvalue]
  cases schema.validate w with
  | error failure => exact ⟨.ok (.error failure), rfl⟩
  | ok _ =>
    obtain ⟨hevents, hloaded⟩ := schema.load_models h hvalue (TypeExpr.seenAs_withModels htype)
    exact ⟨hloaded.map fun _ _ hsame => .ok hsame, hevents⟩

/-- In sessions that start over registries of the two kinds, the same comes of loading. -/
theorem load_models [Text.Repertoire] (h : s.registry.SeenAs s'.registry)
    (hs : s.cache.entries = []) (hs' : s'.cache.entries = []) (hvalue : v.SameContents w)
    (htype : type.Over s.registry.Holds) :
    SameLoaded (s.load v type).1 (s'.load w type.withModels).1 ∧
      (s.load v type).2.1 = (s'.load w type.withModels).2.1 := by
  obtain ⟨hschema, hevents, hregistry⟩ := schemaFor_fresh hs type
  obtain ⟨hschema', hevents', hregistry'⟩ := schemaFor_fresh hs' type.withModels
  rw [h.derive htype] at hschema' hevents'
  have hdisplay : Event.ofDerivation type.withModels (s.registry.derive type) =
      Event.ofDerivation type (s.registry.derive type) := by
    unfold Event.ofDerivation
    rw [TypeExpr.display_withModels]
  rw [hdisplay] at hevents'
  rcases hanswer : s.schemaFor type with ⟨result, events, t⟩
  rcases hanswer' : s'.schemaFor type.withModels with ⟨result', events', t'⟩
  rw [hanswer] at hschema hevents hregistry
  rw [hanswer'] at hschema' hevents' hregistry'
  obtain rfl : result' = result := hschema'.trans hschema.symm
  obtain rfl : events' = events := hevents'.trans hevents.symm
  simp only [load, hanswer, hanswer']
  cases result' with
  | error reason => cases reason <;> exact ⟨Alike.rfl (Alike.rfl SameContents.refl) _, rfl⟩
  | ok schema =>
    have hseen : t.registry.SeenAs t'.registry := by
      rw [hregistry, hregistry']
      exact h
    have hover : type.Over t.registry.Holds := by
      rw [hregistry]
      exact htype
    obtain ⟨hloaded, hmore⟩ := validateAndLoad_models hseen schema hvalue hover
    exact ⟨hloaded, congrArg (events' ++ ·) hmore⟩

def markRef : RecordRef := ⟨2, .data, Registry.recordModule, "Mark", false⟩

/-- A field with a private name. -/
def markDecl : RecordDecl :=
  ⟨"Mark", .data, [⟨"_x", .scalar .int, none, "", true, false⟩], [], false⟩

end Session
end Schematic
