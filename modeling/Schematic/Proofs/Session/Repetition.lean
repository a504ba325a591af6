import Schematic.Proofs.Loading.Repetition
import Schematic.Proofs.SchemaCache.Transparency
import Schematic.Proofs.Session.Returns

/-!
Loading again in a session.  For a type without records every session serves one schema, whatever
it has defined and keeps, so that what one session loaded is accepted by any other, and comes out of
it as it went in.
-/

namespace Schematic
namespace Session

variable {s : Session} {registry : Registry} {type : TypeExpr} {schema : Schema} {value x : Value}

/-- A schema that a type has in every registry is the one that sessions serve. -/
theorem Reachable.schemaFor_eq [Text.Repertoire] (hs : s.Reachable)
    (hderive : ∀ registry : Registry, registry.derive type = .ok schema) :
    (s.schemaFor type).1 = .ok schema := by
  have hkept : s.cache.Holds fun key kept => key.isKey = true ∧
      ∃ registry : Registry, registry.derive key = kept.mapError .failure :=
    hs.holds fun registry key kept hkey hkept => ⟨hkey, registry, hkept⟩
  rcases hkept.answer s.registry.derive type with
    hanswer | ⟨key, kept, ⟨hkey, registry, houtcome⟩, htype, hsame, hanswer⟩
  · exact hanswer.trans (hderive s.registry)
  · have hagree := registry.derive_agree hsame hkey htype
    rw [hderive registry] at hagree
    exact hanswer.trans (houtcome.symm.trans hagree.eq_ok)

/-- What a session loads for a type without records is accepted by the schema of the type, and
every session loads it as it is. -/
theorem load_again [Text.Repertoire] (hs : s.Reachable) (htype : type.RecordFree)
    (hderive : registry.derive type = .ok schema) (hload : (s.load value type).1 = .ok (.ok x)) :
    schema.validate x = .ok () ∧
      ∀ s' : Session, s'.Reachable → (s'.load x type).1 = .ok (.ok x) := by
  have hserved {s : Session} (hs : s.Reachable) : (s.schemaFor type).1 = .ok schema :=
    hs.schemaFor_eq (htype.derive_eq hderive)
  rw [load_served (hserved hs), validateAndLoad] at hload
  cases hvalid : schema.validate value with
  | error failure => rw [hvalid] at hload; cases hload
  | ok _ =>
    rw [hvalid] at hload
    obtain ⟨y, hresult, hy⟩ := Outcome.map_eq_ok hload
    obtain rfl : y = x := Except.ok.inj hy
    have hdescribes := Registry.describes_of_derive (htype.derive_eq hderive s.registry)
    have hsettles := Schema.settles_of_load hdescribes htype
      ((Schema.validate_eq_ok_iff schema value).mp hvalid) hresult
    have hagain : schema.validate y = .ok () :=
      (Schema.validate_eq_ok_iff schema y).mpr hsettles.accepts
    refine ⟨hagain, fun s' hs' => ?_⟩
    rw [load_served (hserved hs'), validateAndLoad, hagain]
    show (schema.load _ y type).result.map Except.ok = _
    rw [hsettles.load_eq]
    rfl

/-- A tuple of lists, of a timestamp and a point in time. -/
theorem load_again_timestamps :
    let type : TypeExpr := .array .sequence (.annotated (.array .list (.scalar .datetime)) [])
    let value : Value := .tuple [.list [.str "2024-03-07T11:38:47Z", .datetime .zero], .list []]
    ∃ d, (Session.start.load value type).1 =
        .ok (.ok (.list [.list [.datetime d, .datetime .zero], .list []])) ∧
      (Schema.arrayOf (.arrayOf (.ofKind .datetime))).validate
        (.list [.list [.datetime d, .datetime .zero], .list []]) = .ok () ∧
      ∀ s' : Session, s'.Reachable →
        (s'.load (.list [.list [.datetime d, .datetime .zero], .list []]) type).1 =
          .ok (.ok (.list [.list [.datetime d, .datetime .zero], .list []])) := by
  intro type value
  have htype : type.RecordFree := .array _ (.annotated _ (.array _ (.scalar .datetime)))
  have hderive : Registry.initial.derive type = .ok (.arrayOf (.arrayOf (.ofKind .datetime))) := rfl
  have hload : (Session.start.load value type).1 = .ok (.ok (.list [.list [_, _], .list []])) := rfl
  exact ⟨_, hload, load_again reachable_start htype hderive hload⟩

end Session
end Schematic
