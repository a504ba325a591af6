import Schematic.Proofs.Derivation.Existence

/-!
What the schema of a type depends on: of everything that is defined, only on the records inside the
type and on what their fields are.  Definitions that leave these as they are leave the schema as it
is, whatever else they add.
-/

namespace Schematic
namespace Registry

variable {registry other : Registry}

theorem derive_eq_ok_iff_describes [Text.Repertoire] {type : TypeExpr} {schema : Schema} :
    registry.derive type = .ok schema ↔ registry.Describes type schema ∧ type.unset? = none := by
  constructor
  · intro h
    exact ⟨describes_of_derive h, (derive_eq_ok_iff.mp h).2⟩
  · rintro ⟨hdescribes, hshown⟩
    exact derive_eq_ok_iff.mpr ⟨hdescribes.ofType_eq, hshown⟩

/-- A record of one registry is one of another, with the same fields. -/
def Shares (registry other : Registry) (ref : RecordRef) : Prop :=
  ∀ c, registry.find? ref = some c →
    other.find? ref = some c ∧ other.fields c = registry.fields c

theorem Describes.of_shares [Text.Repertoire] {type : TypeExpr} {schema : Schema}
    (h : registry.Describes type schema)
    (hshares : ∀ ref, registry.Within (.record ref) type → registry.Shares other ref) :
    other.Describes type schema := by
  induction h with
  | scalar s => exact .scalar s
  | openArray form => exact .openArray form
  | array _ ih =>
    refine .array (ih fun ref hwithin => ?_)
    exact hshares ref (hwithin.tail (.element _ _))
  | mapping form arguments => exact .mapping form arguments
  | annotated extras _ ih =>
    refine .annotated extras (ih fun ref hwithin => ?_)
    exact hshares ref (hwithin.tail (.base _ extras))
  | record hfind hfields _ htags ih =>
    obtain ⟨hfind', hfields'⟩ := hshares _ .refl _ hfind
    refine .record hfind' (hfields'.trans hfields) (fun f hf => ih f hf fun ref hwithin => ?_) htags
    exact hshares ref (hwithin.tail (.hint hfind hfields hf))

/-- A type has the same schema in two registries that share the records inside it. -/
theorem derive_of_shares [Text.Repertoire] {type : TypeExpr} {schema : Schema}
    (h : registry.derive type = .ok schema)
    (hshares : ∀ ref, registry.Within (.record ref) type → registry.Shares other ref) :
    other.derive type = .ok schema := by
  obtain ⟨hdescribes, hshown⟩ := derive_eq_ok_iff_describes.mp h
  exact derive_eq_ok_iff_describes.mpr ⟨hdescribes.of_shares hshares, hshown⟩

end Registry
end Schematic
