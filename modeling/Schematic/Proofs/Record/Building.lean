import Schematic.Loading
import Schematic.Proofs.Derivation.Describes
import Schematic.Proofs.Record.Instance

/-!
Records built from loaded values.  Building adds zero values for the fields that have neither a
value nor a default, so that it depends on the names of the loaded values alone whether a record
can be built: `build_alike` compares two buildings with values under the same names, and `Makes`
is that a record can be built from some of its fields.
-/

namespace Schematic

open Outcome (Alike)

namespace Loading

variable {zero : TypeExpr → Except LoadFault Value} {given : List String}

open Registry (AgreeOff given?)

theorem complete_cons (field : RecordField) (rest : List RecordField)
    (values : List (String × Value)) :
    complete zero (field :: rest) values =
      if values.any (·.1 == field.name) || field.default.isSome then complete zero rest values
      else zero field.hint >>= fun value =>
        complete zero rest (values ++ [(field.name, value)]) := rfl

/-- The same fields are completed on both sides, with the same values. -/
theorem complete_alike {fields : List RecordField} {values values' : List (String × Value)}
    (h : List.Forall₂ (AgreeOff given) values values') :
    Alike (List.Forall₂ (AgreeOff given)) (complete zero fields values)
      (complete zero fields values') := by
  induction fields generalizing values values' with
  | nil => exact .ok h
  | cons field rest ih =>
    rw [complete_cons, complete_cons, Registry.any_fst_eq h (· == field.name)]
    split
    next => exact ih h
    next =>
      refine (Alike.rfl (r := Eq) (fun _ => rfl) (zero field.hint)).bind fun v v' hv => ih ?_
      exact List.rel_append h (.cons ⟨rfl, fun _ => hv⟩ .nil)

/-- Completing leaves the values that are there. -/
theorem given?_complete {fields : List RecordField} {values completed : List (String × Value)}
    (h : complete zero fields values = .ok completed) {name : String} {v : Value}
    (hv : given? values name = some v) : given? completed name = some v := by
  induction fields generalizing values with
  | nil => exact Except.ok.inj h ▸ hv
  | cons field rest ih =>
    rw [complete_cons] at h
    split at h
    next => exact ih h hv
    next =>
      obtain ⟨value, -, h⟩ := Outcome.bind_eq_ok h
      refine ih h ?_
      obtain ⟨p, hp, rfl⟩ := Option.map_eq_some_iff.mp hv
      rw [given?, List.find?_append, hp]
      rfl

/-- Completing fails only where there is no zero value. -/
theorem complete_eq_error {fields : List RecordField} {values : List (String × Value)}
    {fault : LoadFault} (h : complete zero fields values = .error fault) :
    ∃ f ∈ fields, zero f.hint = .error fault := by
  induction fields generalizing values with
  | nil => cases h
  | cons field rest ih =>
    rw [complete_cons] at h
    split at h
    next =>
      obtain ⟨f, hf, herror⟩ := ih h
      exact ⟨f, List.mem_cons_of_mem _ hf, herror⟩
    next =>
      rcases Outcome.bind_eq_error h with hzero | ⟨value, -, h⟩
      · exact ⟨field, List.mem_cons_self, hzero⟩
      · obtain ⟨f, hf, herror⟩ := ih h
        exact ⟨f, List.mem_cons_of_mem _ hf, herror⟩

/-- What completing adds are zero values of fields, so that every field without a default comes to
have a value. -/
theorem complete_eq_ok {fields : List RecordField} {values completed : List (String × Value)}
    (h : complete zero fields values = .ok completed) :
    (∀ p ∈ completed, p ∈ values ∨ ∃ f ∈ fields, f.name = p.1 ∧ zero f.hint = .ok p.2) ∧
      ∀ f ∈ fields, f.default = none → ∃ v, given? completed f.name = some v := by
  induction fields generalizing values with
  | nil =>
    obtain rfl := Except.ok.inj h
    exact ⟨fun p hp => .inl hp, List.forall_mem_nil _⟩
  | cons field rest ih =>
    rw [complete_cons] at h
    split at h
    next hset =>
      obtain ⟨hadded, hgiven⟩ := ih h
      refine ⟨fun p hp => (hadded p hp).imp_right ?_, List.forall_mem_cons.mpr ⟨?_, hgiven⟩⟩
      · rintro ⟨f, hf, h⟩
        exact ⟨f, List.mem_cons_of_mem _ hf, h⟩
      · intro hdefault
        rw [hdefault, Option.isSome_none, Bool.or_false, ← List.isSome_find?] at hset
        obtain ⟨p, hp⟩ := Option.isSome_iff_exists.mp hset
        exact ⟨p.2, given?_complete h (by rw [given?, hp]; rfl)⟩
    next hset =>
      obtain ⟨z, hz, h⟩ := Outcome.bind_eq_ok h
      obtain ⟨hadded, hgiven⟩ := ih h
      refine ⟨fun p hp => ?_, List.forall_mem_cons.mpr ⟨fun _ => ?_, hgiven⟩⟩
      · rcases hadded p hp with hmem | ⟨f, hf, h⟩
        · rcases List.mem_append.mp hmem with hmem | hnew
          · exact .inl hmem
          · obtain rfl := List.mem_singleton.mp hnew
            exact .inr ⟨field, List.mem_cons_self, rfl, hz⟩
        · exact .inr ⟨f, List.mem_cons_of_mem _ hf, h⟩
      · have habsent : values.find? (·.1 == field.name) = none := by
          rw [← Option.not_isSome_iff_eq_none, List.isSome_find?]
          exact fun hany => hset (by rw [hany]; rfl)
        refine ⟨z, given?_complete h ?_⟩
        rw [given?, List.find?_append, habsent]
        simp

end Loading

namespace Registry

variable {registry : Registry} {c : RecordClass} {values values' : List (String × Value)}

/-! ## Building -/

theorem fieldsOf_eq {fields : List RecordField} (hfields : registry.fields c = .ok fields) :
    Loading.fieldsOf registry c = .ok fields := by
  rw [Loading.fieldsOf, hfields]
  rfl

theorem build_eq {fields : List RecordField} (hfields : registry.fields c = .ok fields) :
    registry.build c values =
      Loading.complete registry.zeroValue fields values >>= Loading.instantiate registry c := by
  rw [build, fieldsOf_eq hfields]
  rfl

/-- A record that is built is an instance made with the completed values. -/
theorem build_eq_ok {x : Value} (h : registry.build c values = .ok x) :
    ∃ fields completed, registry.fields c = .ok fields ∧
      Loading.complete registry.zeroValue fields values = .ok completed ∧
      registry.instantiate c completed = .ok x := by
  unfold build at h
  obtain ⟨fields, hfields, h⟩ := Outcome.bind_eq_ok h
  obtain ⟨completed, hcompleted, h⟩ := Outcome.bind_eq_ok h
  exact ⟨fields, completed, Outcome.mapError_eq_ok hfields, hcompleted, Outcome.mapError_eq_ok h⟩

theorem build_alike {given : List String} (h : List.Forall₂ (AgreeOff given) values values')
    (registry : Registry) (c : RecordClass) :
    Alike (InstancesAgree given c.ref) (registry.build c values) (registry.build c values') := by
  unfold build
  refine (Alike.rfl (r := Eq) (fun _ => rfl) _).bind fun fields fields' hfields => ?_
  subst hfields
  refine (Loading.complete_alike h).bind fun completed completed' hcompleted => ?_
  exact (instantiate_alike hcompleted registry c).mapError _

theorem forall₂_agreeOff_null (values : List (String × Value)) :
    List.Forall₂ (AgreeOff (values.map Prod.fst))
      ((values.map Prod.fst).map fun name => (name, .null)) values := by
  rw [List.map_map, List.forall₂_map_left_iff, List.forall₂_same]
  exact fun p hp => ⟨rfl, fun hnot => absurd (List.mem_map_of_mem hp) hnot⟩

/-- A record can be built from values under the given names. -/
def Makes (registry : Registry) (c : RecordClass) (names : List String) : Prop :=
  ∃ x, registry.build c (names.map fun name => (name, .null)) = .ok x

/-- It does not matter which values stand under the names. -/
theorem makes_iff :
    registry.Makes c (values.map Prod.fst) ↔ ∃ x, registry.build c values = .ok x := by
  have halike := build_alike (forall₂_agreeOff_null values) registry c
  constructor
  · rintro ⟨x, hx⟩
    obtain ⟨y, hy, -⟩ := halike.eq_ok hx
    exact ⟨y, hy⟩
  · rintro ⟨y, hy⟩
    obtain ⟨x, hx, -⟩ := halike.symm.eq_ok hy
    exact ⟨x, hx⟩

/-- A field for which a value was loaded holds it, if it holds anything. -/
theorem build_held {fields : List RecordField} {x : Value}
    (hfields : registry.fields c = .ok fields) (h : registry.build c values = .ok x) :
    ∃ slots, x = .record c.ref slots ∧ ∀ f ∈ fields, ∀ v, (f.name, some v) ∈ slots →
      ∀ u, given? values f.name = some u → (f.name, some u) ∈ slots := by
  obtain ⟨listed, completed, hlisted, hcompleted, h⟩ := build_eq_ok h
  obtain rfl := Except.ok.inj (hfields.symm.trans hlisted)
  obtain ⟨slots, rfl, hheld⟩ := instantiate_held hfields h
  refine ⟨slots, rfl, fun f hf v hv u hu => ?_⟩
  obtain ⟨w, hw, hgiven⟩ := hheld f hf v hv
  have hcomplete := Loading.given?_complete hcompleted hu
  rcases hgiven with hsome | ⟨hnone, -⟩
  · obtain rfl := Option.some.inj (hsome.symm.trans hcomplete)
    exact hw
  · rw [hnone] at hcomplete
    cases hcomplete

theorem build_eq_error {fields : List RecordField} {fault : LoadFault}
    (hfields : registry.fields c = .ok fields) (h : registry.build c values = .error fault) :
    (∃ f ∈ fields, registry.zeroValue f.hint = .error fault) ∨
      ∃ e, fault = .instanceFault e := by
  rw [build_eq hfields] at h
  rcases Outcome.bind_eq_error h with hcomplete | ⟨completed, -, h⟩
  · exact .inl (Loading.complete_eq_error hcomplete)
  · obtain ⟨e, -, he⟩ := Outcome.mapError_eq_error h
    exact .inr ⟨e, he.symm⟩

/-! ## Zero values -/

theorem zeroRecord_eq {seen : List RecordRef} {ref : RecordRef} {fields : List RecordField}
    (hseen : ref ∉ seen) (hfind : registry.find? ref = some c)
    (hfields : registry.fields c = .ok fields) :
    Loading.zeroRecord registry seen ref =
      Loading.complete (Loading.zeroOf (Loading.zeroRecord registry (ref :: seen))) fields [] >>=
        Loading.instantiate registry c := by
  rw [Loading.zeroRecord, dif_neg hseen]
  split
  next hnone => rw [hfind] at hnone; cases hnone
  next c' hsome =>
    obtain rfl := Option.some.inj (hfind.symm.trans hsome)
    rw [fieldsOf_eq hfields]
    rfl

/-- A type inside a record is inside none of the records on the way to it, the record included. -/
theorem Describes.inner_not_within [Text.Repertoire] {ref : RecordRef} {schema : Schema}
    (h : registry.Describes (.record ref) schema) {seen : List RecordRef}
    (hseen : ∀ r ∈ seen, ¬ registry.Within (.record r) (.record ref)) {type : TypeExpr}
    (hinner : registry.Inner type (.record ref)) :
    ∀ r ∈ ref :: seen, ¬ registry.Within (.record r) type :=
  List.forall_mem_cons.mpr
    ⟨h.not_within hinner, fun r hr hwithin => hseen r hr (hwithin.tail hinner)⟩

/-- A type with a schema that is inside none of the records on the way has a zero value, unless an
instance of a record cannot be made. -/
theorem Describes.zero_eq_error [Text.Repertoire] {type : TypeExpr} {schema : Schema}
    (h : registry.Describes type schema) {seen : List RecordRef} {fault : LoadFault}
    (hseen : ∀ ref ∈ seen, ¬ registry.Within (.record ref) type)
    (herror : Loading.zeroOf (Loading.zeroRecord registry seen) type = .error fault) :
    ∃ e, fault = .instanceFault e := by
  induction h generalizing seen with
  | scalar | openArray | array | mapping => cases herror
  | annotated extras _ ih =>
    exact ih (fun ref href hwithin => hseen ref href (hwithin.tail (.base _ extras))) herror
  | @record ref c fields schemaOf memberOf hfind hfields hhints htags ih =>
    have hrecord := Describes.record hfind hfields hhints htags
    change Loading.zeroRecord registry seen ref = .error fault at herror
    rw [zeroRecord_eq (fun href => hseen ref href .refl) hfind hfields] at herror
    rcases Outcome.bind_eq_error herror with hcomplete | ⟨completed, -, herror⟩
    · obtain ⟨f, hf, hzero⟩ := Loading.complete_eq_error hcomplete
      exact ih f hf (hrecord.inner_not_within hseen (.hint hfind hfields hf)) hzero
    · obtain ⟨e, -, he⟩ := Outcome.mapError_eq_error herror
      exact ⟨e, he.symm⟩

theorem Describes.build_eq_error [Text.Repertoire] {ref : RecordRef} {schema : Schema}
    (h : registry.Describes (.record ref) schema) (hfind : registry.find? ref = some c)
    {fault : LoadFault} (herror : registry.build c values = .error fault) :
    ∃ e, fault = .instanceFault e := by
  cases h with
  | record hfind' hfields hhints htags =>
    obtain rfl := Option.some.inj (hfind.symm.trans hfind')
    rcases Registry.build_eq_error hfields herror with ⟨f, hf, hzero⟩ | hinstance
    · have hnone : ∀ ref ∈ ([] : List RecordRef), ¬ registry.Within (.record ref) f.hint := nofun
      exact (hhints f hf).zero_eq_error hnone hzero
    · exact hinstance

end Registry
end Schematic
