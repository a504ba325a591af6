import Schematic.Proofs.Derivation.Existence
import Schematic.Proofs.SchemaCache.Entries
import Schematic.Proofs.TypeExpr.Keys
import Schematic.Session

/-!
The cache does not show in what is answered, as long as no records are defined in between.

A key may equal a type without being the same: unions are compared as sets, extras as values.  What
derivation reads of a type is the same for both all the same, and only the text of the type, which
is part of the message of a failure, may differ.  So whatever a cache keeps under a key is what
derivation gives for every type that equals the key, up to that text.
-/

namespace Schematic

/-- Two failures are reported alike but for their messages. -/
structure Failure.SameReport (f g : Failure) : Prop where
  code : f.report.code = g.report.code
  origin : f.report.origin = g.report.origin
  path : f.report.path = g.report.path

theorem Failure.SameReport.rfl {f : Failure} : f.SameReport f :=
  ⟨Eq.refl _, Eq.refl _, Eq.refl _⟩

namespace Derivation

/-- Two outcomes of derivation agree: one schema, failures that are reported alike, or one fault. -/
inductive Agree : Except Underivable Schema → Except Underivable Schema → Prop
  | ok (schema : Schema) : Agree (.ok schema) (.ok schema)
  | failure {f g : Failure} (h : f.SameReport g) :
      Agree (.error (.failure f)) (.error (.failure g))
  | fault (fault : TypeFault) : Agree (.error (.fault fault)) (.error (.fault fault))

theorem Agree.refl (outcome : Except Underivable Schema) : Agree outcome outcome := by
  rcases outcome with (f | fault) | schema
  · exact .failure .rfl
  · exact .fault fault
  · exact .ok schema

theorem Agree.eq_ok {x : Except Underivable Schema} {schema : Schema}
    (h : Agree x (.ok schema)) : x = .ok schema := by
  cases h with
  | ok => rfl

theorem Agree.map {x y : Except Underivable Schema} (h : Agree x y) (f : Schema → Schema) :
    Agree (x.map f) (y.map f) := by
  cases h with
  | ok schema => exact .ok (f schema)
  | failure hreport => exact .failure hreport
  | fault fault => exact .fault fault

theorem unsupported_agree {a b : TypeExpr} (ha : a.unset? = none) (hb : b.unset? = none) :
    Agree (.error (unsupported a)) (.error (unsupported b)) := by
  rw [unsupported, unsupported, ha, hb]
  exact .failure ⟨rfl, rfl, rfl⟩

/-- What derivation reads of two types that are equal is the same. -/
theorem ofType_agree {onRecord : RecordRef → Except Underivable Schema} {a b : TypeExpr}
    (h : a.same b = true) (ha : a.unset? = none) (hb : b.unset? = none) :
    Agree (ofType onRecord a) (ofType onRecord b) := by
  fun_induction ofType onRecord a generalizing b with
  | case1 s =>
    cases b with
    | scalar t =>
      have hs : s = t := eq_of_beq h
      rw [hs]
      exact .refl _
    | _ => cases h
  | case2 form =>
    cases b with
    | openArray other => exact .refl _
    | _ => cases h
  | case3 form element ih =>
    cases b with
    | array other element' =>
      obtain ⟨-, helement⟩ := (Bool.and_eq_true _ _).mp h
      exact (ih helement ha hb).map .arrayOf
    | _ => cases h
  | case4 form arguments =>
    cases b with
    | mapping other arguments' => exact .refl _
    | _ => cases h
  | case5 ref =>
    cases b with
    | record ref' =>
      have href : ref = ref' := eq_of_beq h
      rw [href]
      exact .refl _
    | _ => cases h
  | case6 base extras ih =>
    cases b with
    | annotated base' extras' =>
      obtain ⟨hbase, -⟩ := (Bool.and_eq_true _ _).mp h
      obtain ⟨ha, -⟩ := (Option.orElse_eq_none _ _).mp ha
      obtain ⟨hb, -⟩ := (Option.orElse_eq_none _ _).mp hb
      show Agree (ofType onRecord base) (ofType onRecord base')
      exact ih hbase ha hb
    | _ => cases h
  | case7 type hscalar hopen harray hmapping hrecord hannotated =>
    -- The other forms of type equal none but their own, and none of them has a schema.
    have hother : ofType onRecord b = .error (unsupported b) := by
      cases type with
      | scalar s => exact absurd rfl (hscalar s)
      | openArray form => exact absurd rfl (hopen form)
      | array form element => exact absurd rfl (harray form element)
      | mapping form arguments => exact absurd rfl (hmapping form arguments)
      | record ref => exact absurd rfl (hrecord ref)
      | annotated base extras => exact absurd rfl (hannotated base extras)
      | _ => cases b <;> first | rfl | cases h
    rw [hother]
    exact unsupported_agree ha hb

end Derivation

theorem Registry.derive_agree [Text.Repertoire] (registry : Registry) {a b : TypeExpr}
    (h : a.same b = true) (ha : a.isKey = true) (hb : b.isKey = true) :
    Derivation.Agree (registry.derive a) (registry.derive b) := by
  have hshown := TypeExpr.unset?_of_isKey ha
  have hshown' := TypeExpr.unset?_of_isKey hb
  rw [registry.derive_of_shown hshown, registry.derive_of_shown hshown']
  exact Derivation.ofType_agree h hshown hshown'

namespace Session

/-- The answers to questions for schemas, one after the other. -/
def answers [Text.Repertoire] (s : Session) : List TypeExpr → List (Except Underivable Schema)
  | [] => []
  | type :: rest => (s.schemaFor type).1 :: (s.schemaFor type).2.2.answers rest

/-- What the cache keeps under keys is what derivation gives for them. -/
def Faithful [Text.Repertoire] (s : Session) : Prop :=
  s.cache.Holds fun key kept =>
    key.isKey = true ∧ s.registry.derive key = kept.mapError .failure

/-- A question leaves the cache faithful, and its answer agrees with derivation. -/
theorem Faithful.schemaFor [Text.Repertoire] {s : Session} (h : s.Faithful) (type : TypeExpr) :
    (s.schemaFor type).2.2.Faithful ∧
      Derivation.Agree (s.schemaFor type).1 (s.registry.derive type) := by
  refine ⟨SchemaCache.Holds.get h fun kept hkey _ hderive => ⟨hkey, hderive⟩, ?_⟩
  show Derivation.Agree (s.cache.get s.registry.derive type).schema (s.registry.derive type)
  rcases SchemaCache.Holds.answer h s.registry.derive type with
    hderived | ⟨key, kept, ⟨hkey, hkept⟩, htype, hsame, hfound⟩
  · rw [hderived]
    exact .refl _
  · rw [hfound, ← hkept]
    exact s.registry.derive_agree hsame hkey htype

theorem Faithful.answers [Text.Repertoire] {s : Session} (h : s.Faithful) (types : List TypeExpr) :
    List.Forall₂ Derivation.Agree (s.answers types) (types.map s.registry.derive) := by
  induction types generalizing s with
  | nil => exact .nil
  | cons type rest ih =>
    obtain ⟨hnext, hanswer⟩ := h.schemaFor type
    exact .cons hanswer (ih hnext)

/-- Whatever was asked before, and whatever room the cache has, every answer agrees with
derivation. -/
theorem answers_agree [Text.Repertoire] (registry : Registry) (capacity : Nat)
    (types : List TypeExpr) :
    List.Forall₂ Derivation.Agree (answers ⟨registry, .empty capacity⟩ types)
      (types.map registry.derive) := by
  have hempty : Faithful ⟨registry, .empty capacity⟩ := SchemaCache.holds_empty capacity
  exact hempty.answers types

-- Two spellings of one union have one entry.
example :
    ((Session.start.schemaFor (.union .applied [.scalar .int, .named .null])).2.2.schemaFor
      (.union .barred [.named .null, .scalar .int])).2.2.cache.hits = 1 := by
  decide +kernel

end Session
end Schematic
