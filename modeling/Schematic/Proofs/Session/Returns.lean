import Schematic.Proofs.Loading.Blocked
import Schematic.Proofs.Session.Reachable

/-!
When loading returns.  A value that a schema accepts is loaded unless a position is blocked that
loading comes to, and this is all that can keep a session from returning a value or a failure for a
type that has a schema.

It does happen: every integer is a number to validation, and there are integers beyond the range of
floats.
-/

namespace Schematic
namespace Session

variable {s : Session} {type : TypeExpr} {schema : Schema}

/-- What comes of a value after the schema is found. -/
theorem exists_validateAndLoad_iff (hschema : schema.WellFormed) (value : Value) :
    (∃ outcome, (s.validateAndLoad schema value type).1 = .ok outcome) ↔
      (schema.validate value = .ok () → s.registry.Unblocked ⟨schema, value, type⟩) := by
  unfold validateAndLoad
  cases hvalid : schema.validate value with
  | error failure => exact iff_of_true ⟨_, rfl⟩ nofun
  | ok _ =>
    have hload := @Schema.exists_load_iff s.registry schema value hschema
      ((Schema.validate_eq_ok_iff schema value).mp hvalid) type
    constructor
    · rintro ⟨outcome, houtcome⟩ -
      obtain ⟨x, hx, -⟩ := Outcome.map_eq_ok houtcome
      exact hload.mp ⟨x, hx⟩
    · intro h
      obtain ⟨x, hx⟩ := hload.mpr (h rfl)
      refine ⟨.ok x, ?_⟩
      show (schema.load s.registry value type).result.map Except.ok = _
      rw [hx]
      rfl

/-- A type that has a schema is answered with a schema or a failure. -/
theorem schemaFor_cases [Text.Repertoire] (hderive : s.registry.derive type = .ok schema) :
    (∃ served, (s.schemaFor type).1 = .ok served) ∨
      ∃ failure, (s.schemaFor type).1 = .error (.failure failure) := by
  cases hserved : (s.schemaFor type).1 with
  | ok served => exact .inl ⟨served, rfl⟩
  | error reason =>
    cases reason with
    | failure failure => exact .inr ⟨failure, rfl⟩
    | fault fault => exact absurd hserved (SchemaCache.get_ne_fault hderive fault)

theorem load_served [Text.Repertoire] {served : Schema}
    (hserved : (s.schemaFor type).1 = .ok served) (value : Value) :
    (s.load value type).1 = ((s.schemaFor type).2.2.validateAndLoad served value type).1 := by
  rcases hanswer : s.schemaFor type with ⟨result, events, s'⟩
  obtain rfl : result = .ok served := by rw [hanswer] at hserved; exact hserved
  simp only [load, hanswer]

theorem load_failed [Text.Repertoire] {failure : Failure}
    (hserved : (s.schemaFor type).1 = .error (.failure failure)) (value : Value) :
    (s.load value type).1 = .ok (.error failure) := by
  rcases hanswer : s.schemaFor type with ⟨result, events, s'⟩
  obtain rfl : result = .error (.failure failure) := by rw [hanswer] at hserved; exact hserved
  simp only [load, hanswer]

theorem loadText_served [Text.Repertoire] {served : Schema}
    (hserved : (s.schemaFor type).1 = .ok served) (text : List UInt8) :
    (s.loadText text type).1 =
      match decode text with
      | .error failure => .ok (.error failure)
      | .ok value => ((s.schemaFor type).2.2.validateAndLoad served value type).1 := by
  rcases hanswer : s.schemaFor type with ⟨result, events, s'⟩
  obtain rfl : result = .ok served := by rw [hanswer] at hserved; exact hserved
  simp only [loadText, hanswer]
  cases decode text <;> rfl

theorem loadText_failed [Text.Repertoire] {failure : Failure}
    (hserved : (s.schemaFor type).1 = .error (.failure failure)) (text : List UInt8) :
    (s.loadText text type).1 = .ok (.error failure) := by
  rcases hanswer : s.schemaFor type with ⟨result, events, s'⟩
  obtain rfl : result = .error (.failure failure) := by rw [hanswer] at hserved; exact hserved
  simp only [loadText, hanswer]

/-- For a type with a schema, an accepted value is loaded exactly if no position is blocked that
loading comes to.  Loading a value or a text in a session returns a value or a failure exactly if
this holds of the value that the schema of the session accepts, should it accept one. -/
theorem returns_iff [Text.Repertoire] (hs : s.Reachable)
    (hderive : s.registry.derive type = .ok schema) :
    (∀ value, schema.validate value = .ok () →
        ((∃ x, (schema.load s.registry value type).result = .ok x) ↔
          s.registry.Unblocked ⟨schema, value, type⟩)) ∧
      (∀ value, (∃ outcome, (s.load value type).1 = .ok outcome) ↔
        ∀ served, (s.schemaFor type).1 = .ok served → served.validate value = .ok () →
          s.registry.Unblocked ⟨served, value, type⟩) ∧
      ∀ text, (∃ outcome, (s.loadText text type).1 = .ok outcome) ↔
        ∀ served value, (s.schemaFor type).1 = .ok served → decode text = .ok value →
          served.validate value = .ok () → s.registry.Unblocked ⟨served, value, type⟩ := by
  refine ⟨fun value hvalid => ?_, fun value => ?_, fun text => ?_⟩
  · exact Schema.exists_load_iff (Registry.describes_of_derive hderive).wellFormed
      ((Schema.validate_eq_ok_iff schema value).mp hvalid) type
  · rcases schemaFor_cases hderive with ⟨served, hserved⟩ | ⟨failure, hfailed⟩
    · have hloads := @exists_validateAndLoad_iff (s.schemaFor type).2.2 type served
        (hs.served_wellFormed hserved) value
      rw [load_served hserved, hloads]
      constructor
      · intro h other hother
        obtain rfl := Except.ok.inj (hserved.symm.trans hother)
        exact h
      · exact fun h => h served hserved
    · refine iff_of_true ⟨_, load_failed hfailed value⟩ fun other hother => ?_
      rw [hfailed] at hother
      cases hother
  · rcases schemaFor_cases hderive with ⟨served, hserved⟩ | ⟨failure, hfailed⟩
    · rw [loadText_served hserved]
      cases hdecode : decode text with
      | error failure => exact iff_of_true ⟨_, rfl⟩ nofun
      | ok value =>
        have hloads := @exists_validateAndLoad_iff (s.schemaFor type).2.2 type served
          (hs.served_wellFormed hserved) value
        rw [hloads]
        constructor
        · intro h other value' hother hvalue
          obtain rfl := Except.ok.inj (hserved.symm.trans hother)
          obtain rfl := Except.ok.inj hvalue
          exact h
        · exact fun h => h served value hserved rfl
    · refine iff_of_true ⟨_, loadText_failed hfailed text⟩ fun other value hother => ?_
      rw [hfailed] at hother
      cases hother

/-- A list of timestamps is loaded in a new session. -/
theorem returns_iff_timestamps :
    ∃ outcome, (Session.start.load (.list [.str "2024-03-07T11:38:47Z"])
      (.array .list (.scalar .datetime))).1 = .ok outcome := by
  have hderive : Session.start.registry.derive (.array .list (.scalar .datetime)) =
      .ok (.arrayOf (.ofKind .datetime)) := rfl
  obtain ⟨hvalue, hload, -⟩ := returns_iff reachable_start hderive
  refine (hload _).mpr fun served hserved hvalid => ?_
  obtain rfl : Schema.arrayOf (.ofKind .datetime) = served := Except.ok.inj hserved
  exact (hvalue _ hvalid).mp ⟨_, rfl⟩

/-- Validation accepts every integer as a number, and one beyond the range of floats stops
loading. -/
theorem load_large_integer [Text.Repertoire] {i : Int} (hlarge : Binary64.ofInt? i = none) :
    (Schema.ofKind .number).validate (.int i) = .ok () ∧
      ((Schema.ofKind .number).load Session.start.registry (.int i) (.scalar .float)).result =
        .error .intTooLarge ∧
      (Session.start.load (.int i) (.scalar .float)).1 = .error .intTooLarge := by
  have hload : ((Schema.ofKind .number).load Session.start.registry (.int i)
      (.scalar .float)).result = .error .intTooLarge := by
    show Loading.number (.int i) = _
    rw [Loading.number, hlarge]
  refine ⟨rfl, hload, ?_⟩
  have hserved : (Session.start.schemaFor (.scalar .float)).1 = .ok (.ofKind .number) := rfl
  rw [load_served hserved]
  show ((Schema.ofKind .number).load Session.start.registry (.int i)
    (.scalar .float)).result.map Except.ok = _
  rw [hload]
  rfl

/-- An integer of 401 digits is accepted for a float and not loaded. -/
theorem large_integer_not_loaded :
    Session.start.registry.derive (.scalar .float) = .ok (.ofKind .number) ∧
      (Schema.ofKind .number).validate (.int (10 ^ 400)) = .ok () ∧
      ((Schema.ofKind .number).load Session.start.registry (.int (10 ^ 400))
        (.scalar .float)).result = .error .intTooLarge ∧
      (Session.start.load (.int (10 ^ 400)) (.scalar .float)).1 = .error .intTooLarge :=
  ⟨rfl, load_large_integer (by decide +kernel)⟩

end Session
end Schematic
