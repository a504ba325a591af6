import Schematic.Proofs.Schema.WellFormed
import Schematic.Proofs.SchemaCache.Entries
import Schematic.Session

/-!
Sessions that can come about: one starts without records of its own and with an empty cache, and
every step defines records, asks for a schema or loads something.  The cache may keep a schema from
a time at which fewer records were defined, so that it need not be the one that derivation gives
now; but every schema that was kept was derived, and every schema that a session gives is well
formed.
-/

namespace Schematic
namespace Session

inductive Reachable [Text.Repertoire] : Session → Prop
  | start (capacity : Nat) : Reachable ⟨.initial, .empty capacity⟩
  | define {s s' : Session} {decls : List RecordDecl} (hs : Reachable s)
      (h : s.define decls = .ok s') : Reachable s'
  | schemaFor {s : Session} (hs : Reachable s) (type : TypeExpr) : Reachable (s.schemaFor type).2.2
  | load {s : Session} (hs : Reachable s) (value : Value) (type : TypeExpr) :
      Reachable (s.load value type).2.2
  | loadText {s : Session} (hs : Reachable s) (text : List UInt8) (type : TypeExpr) :
      Reachable (s.loadText text type).2.2

theorem reachable_start [Text.Repertoire] : Reachable .start :=
  .start SchemaCache.defaultCapacity

end Session

namespace SchemaCache

/-- Every schema that is kept is well formed. -/
def WellFormed (cache : SchemaCache) : Prop :=
  ∀ entry ∈ cache.entries, ∀ schema, entry.2 = .ok schema → schema.WellFormed

variable {cache : SchemaCache} {derive : TypeExpr → Except Underivable Schema}

/-- A cache gives no fault for a type that has a schema. -/
theorem get_ne_fault {type : TypeExpr} {schema : Schema} (hderive : derive type = .ok schema)
    (fault : TypeFault) : (cache.get derive type).schema ≠ .error (.fault fault) := by
  unfold SchemaCache.get
  intro hfault
  split at hfault
  next =>
    split at hfault
    next =>
      obtain ⟨f, -, hf⟩ := Outcome.mapError_eq_error hfault
      cases hf
    next => rw [hderive] at hfault; cases hfault
  next => rw [hderive] at hfault; cases hfault

end SchemaCache

namespace Session

variable {s s' : Session}

theorem load_session [Text.Repertoire] (value : Value) (type : TypeExpr) :
    (s.load value type).2.2 = (s.schemaFor type).2.2 := by
  unfold Session.load
  split
  next hschema => split <;> rw [hschema]

theorem loadText_session [Text.Repertoire] (text : List UInt8) (type : TypeExpr) :
    (s.loadText text type).2.2 = (s.schemaFor type).2.2 := by
  unfold Session.loadText
  split
  next hschema =>
    split
    · rw [hschema]
    · rw [hschema]
    · split <;> rw [hschema]

theorem define_cache {decls : List RecordDecl} (h : s.define decls = .ok s') :
    s'.cache = s.cache := by
  obtain ⟨registry, -, rfl⟩ := Outcome.map_eq_ok h
  rfl

variable {P : TypeExpr → Except Failure Schema → Prop}

/-- What holds of all that can be derived for keys holds of all that a session keeps. -/
theorem Reachable.holds [Text.Repertoire] (hs : s.Reachable)
    (hderived : ∀ (registry : Registry) (key : TypeExpr) (kept : Except Failure Schema),
      key.isKey = true → registry.derive key = kept.mapError .failure → P key kept) :
    s.cache.Holds P := by
  have hstep : ∀ {s : Session} (type : TypeExpr), s.cache.Holds P →
      (s.schemaFor type).2.2.cache.Holds P :=
    fun type h => h.get fun kept hkey _ hkept => hderived _ type kept hkey hkept
  induction hs with
  | start capacity => exact SchemaCache.holds_empty capacity
  | define _ h ih => rw [define_cache h]; exact ih
  | schemaFor _ type ih => exact hstep type ih
  | load _ value type ih => rw [load_session]; exact hstep type ih
  | loadText _ text type ih => rw [loadText_session]; exact hstep type ih

theorem Reachable.wellFormed [Text.Repertoire] (hs : s.Reachable) : s.cache.WellFormed :=
  hs.holds (P := fun _ kept => ∀ schema, kept = .ok schema → schema.WellFormed)
    fun registry key kept _ hkept schema hschema => by
      rw [hschema] at hkept
      exact (Registry.describes_of_derive hkept).wellFormed

theorem Reachable.served_wellFormed [Text.Repertoire] (hs : s.Reachable) {type : TypeExpr}
    {schema : Schema} (h : (s.schemaFor type).1 = .ok schema) : schema.WellFormed := by
  have hkept : s.cache.Holds fun _ kept => ∀ schema, kept = .ok schema → schema.WellFormed :=
    hs.wellFormed
  rcases hkept.answer s.registry.derive type with hderived | ⟨_, kept, hwellFormed, -, -, hfound⟩
  · exact (Registry.describes_of_derive (hderived.symm.trans h)).wellFormed
  · exact hwellFormed schema (Outcome.mapError_eq_ok (hfound.symm.trans h))

end Session
end Schematic
