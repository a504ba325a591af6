import Schematic.Proofs.Loading.Steps
import Schematic.Proofs.Record.Building

/-!
Where loading of an accepted value stops.  Loading comes from one position, a schema with a value
and a type, to others: the elements of an array, and the inputs of a record.  A position is blocked
if it alone keeps loading from a result: an integer beyond the range of floats, an object for a
type that takes none, a record whose fields cannot be listed, and one that cannot be built from the
fields for which something is loaded.  `exists_load_iff` says that nothing else stops loading.
-/

namespace Schematic

structure Position where
  schema : Schema
  value : Value
  type : TypeExpr

namespace Registry

open Relation (ReflTransGen)

/-- Loading comes from a position to another one. -/
inductive Enters (registry : Registry) : Position → Position → Prop
  | element {schema element : Schema} {value item : Value} {items : List Value} {type : TypeExpr}
      (hkind : schema.kind = .array) (hitems : value.items? = some items)
      (helement : schema.elements = some element) (hitem : item ∈ items) :
      Enters registry ⟨schema, value, type⟩ ⟨element, item, Loading.elementType type.base⟩
  | input {schema : Schema} {value : Value} {type : TypeExpr} {entries : List (Value × Value)}
      {ref : RecordRef} {c : RecordClass} {fields : List RecordField} {i : Loading.Input}
      (hkind : schema.kind = .object) (hentries : value.entries? = some entries)
      (htype : type.base = .record ref) (hfind : registry.find? ref = some c)
      (hfields : registry.fields c = .ok fields) (hinput : i ∈ schema.inputs entries fields) :
      Enters registry ⟨schema, value, type⟩ ⟨i.schema, i.value, i.field.hint⟩

/-- Nothing can be loaded at a position, whatever is loaded at those it leads to. -/
inductive Blocked (registry : Registry) : Position → Prop
  /-- An integer beyond the range of floats. -/
  | integer {schema : Schema} {i : Int} {type : TypeExpr} (hkind : schema.kind = .number)
      (hlarge : Binary64.ofInt? i = none) : Blocked registry ⟨schema, .int i, type⟩
  /-- An object for a type that is neither a mapping nor a record. -/
  | destination {schema : Schema} {value : Value} {type : TypeExpr} (hkind : schema.kind = .object)
      (hmapping : ∀ form arguments, type.base ≠ .mapping form arguments)
      (hrecord : ∀ ref, type.base = .record ref → registry.find? ref = none) :
      Blocked registry ⟨schema, value, type⟩
  /-- A record whose fields cannot be listed. -/
  | unlisted {schema : Schema} {value : Value} {type : TypeExpr} {ref : RecordRef}
      {c : RecordClass} {e : Reference.Error} (hkind : schema.kind = .object)
      (htype : type.base = .record ref) (hfind : registry.find? ref = some c)
      (hfields : registry.fields c = .error e) : Blocked registry ⟨schema, value, type⟩
  /-- A record that cannot be built from its inputs. -/
  | unmade {schema : Schema} {value : Value} {type : TypeExpr} {entries : List (Value × Value)}
      {ref : RecordRef} {c : RecordClass} {fields : List RecordField}
      (hkind : schema.kind = .object) (hentries : value.entries? = some entries)
      (htype : type.base = .record ref) (hfind : registry.find? ref = some c)
      (hfields : registry.fields c = .ok fields)
      (hmakes : ¬ registry.Makes c ((schema.inputs entries fields).map (·.field.name))) :
      Blocked registry ⟨schema, value, type⟩

/-- No position that loading comes to is blocked. -/
def Unblocked (registry : Registry) (p : Position) : Prop :=
  ∀ q, ReflTransGen registry.Enters p q → ¬ registry.Blocked q

variable {registry : Registry}

theorem unblocked_iff {p : Position} :
    registry.Unblocked p ↔
      ¬ registry.Blocked p ∧ ∀ q, registry.Enters p q → registry.Unblocked q := by
  constructor
  · intro h
    exact ⟨h p .refl, fun q hq r hr => h r (.head hq hr)⟩
  · rintro ⟨hhere, hinner⟩ q hq
    rcases hq.cases_head with rfl | ⟨r, hr, hrq⟩
    · exact hhere
    · exact hinner r hr q hrq

/-- Loading of a scalar goes no further. -/
theorem unblocked_scalar_iff {schema : Schema} {value : Value} {type : TypeExpr}
    (hobject : schema.kind ≠ .object) (harray : schema.kind ≠ .array) :
    registry.Unblocked ⟨schema, value, type⟩ ↔
      ¬ (schema.kind = .number ∧ ∃ i, value = .int i ∧ Binary64.ofInt? i = none) := by
  rw [unblocked_iff]
  constructor
  · rintro ⟨hhere, -⟩ ⟨hkind, i, rfl, hlarge⟩
    exact hhere (.integer hkind hlarge)
  · intro h
    constructor
    · intro hblocked
      cases hblocked with
      | integer hkind hlarge => exact h ⟨hkind, _, rfl, hlarge⟩
      | destination hkind | unlisted hkind | unmade hkind => exact hobject hkind
    · intro q hq
      cases hq with
      | element hkind => exact absurd hkind harray
      | input hkind => exact absurd hkind hobject

end Registry

namespace Schema

variable {registry : Registry} {schema : Schema} {value : Value} {type : TypeExpr}

/-- A scalar is loaded, unless it is an integer that is no float. -/
theorem exists_load_scalar_iff (hobject : schema.kind ≠ .object) (harray : schema.kind ≠ .array)
    (hholds : schema.kind.Holds value) :
    (∃ x, (schema.load registry value type).result = .ok x) ↔
      registry.Unblocked ⟨schema, value, type⟩ := by
  rw [Registry.unblocked_scalar_iff hobject harray]
  rcases load_scalar registry type hobject harray hholds with
    ⟨x, hloads, hload⟩ | ⟨hkind, i, rfl, hlarge, hload⟩
  · refine iff_of_true ⟨x, by rw [hload]; rfl⟩ ?_
    rintro ⟨hkind, i, rfl, hlarge⟩
    rw [hkind] at hloads
    cases hloads with
    | widened h => rw [hlarge] at h; cases h
  · refine iff_of_false ?_ fun h => h ⟨hkind, i, rfl, hlarge⟩
    rintro ⟨x, hx⟩
    rw [hload] at hx
    cases hx

/-! ## Objects -/

/-- An object is refused by a type that is neither a mapping nor a record. -/
theorem load_refused (hkind : schema.kind = .object)
    (hmapping : ∀ form arguments, type.base ≠ .mapping form arguments)
    (hrecord : ∀ ref, type.base = .record ref → registry.find? ref = none) (x : Value) :
    (schema.load registry value type).result ≠ .ok x := by
  rw [load_object hkind]
  generalize type.base = base at hmapping hrecord
  unfold Loading.object
  intro hx
  rw [Noted.result_bind] at hx
  obtain ⟨entries, -, hx⟩ := Outcome.bind_eq_ok hx
  cases base with
  | mapping form arguments => exact hmapping form arguments rfl
  | record ref =>
    simp only [hrecord ref rfl] at hx
    cases hx
  | _ => cases hx

theorem load_unlisted {ref : RecordRef} {c : RecordClass} {e : Reference.Error}
    (hkind : schema.kind = .object) (htype : type.base = .record ref)
    (hfind : registry.find? ref = some c) (hfields : registry.fields c = .error e) (x : Value) :
    (schema.load registry value type).result ≠ .ok x := by
  rw [load_object hkind, htype]
  unfold Loading.object
  intro hx
  rw [Noted.result_bind] at hx
  obtain ⟨entries, -, hx⟩ := Outcome.bind_eq_ok hx
  simp only [hfind, Loading.fieldsOf, hfields] at hx
  cases hx

/-- Nothing but what its record needs blocks the position of an object. -/
theorem not_blocked_record_iff {entries : List (Value × Value)} {ref : RecordRef}
    {c : RecordClass} {fields : List RecordField} (hkind : schema.kind = .object)
    (hentries : value.entries? = some entries) (htype : type.base = .record ref)
    (hfind : registry.find? ref = some c) (hfields : registry.fields c = .ok fields) :
    ¬ registry.Blocked ⟨schema, value, type⟩ ↔
      registry.Makes c ((schema.inputs entries fields).map (·.field.name)) := by
  rw [not_iff_comm]
  constructor
  · exact .unmade hkind hentries htype hfind hfields
  · intro hblocked
    cases hblocked with
    | integer hnumber => rw [hkind] at hnumber; cases hnumber
    | destination _ _ hrecord => rw [hrecord ref htype] at hfind; cases hfind
    | unlisted _ htype' hfind' hfields' =>
      obtain rfl := TypeExpr.record.inj (htype.symm.trans htype')
      obtain rfl := Option.some.inj (hfind.symm.trans hfind')
      rw [hfields] at hfields'
      cases hfields'
    | unmade _ hentries' htype' hfind' hfields' hmakes =>
      obtain rfl := Option.some.inj (hentries.symm.trans hentries')
      obtain rfl := TypeExpr.record.inj (htype.symm.trans htype')
      obtain ⟨rfl, rfl⟩ := Registry.listed_unique hfind hfields hfind' hfields'
      exact hmakes

/-- A position that a record leads to is one of its inputs. -/
theorem entered_of_record {entries : List (Value × Value)} {ref : RecordRef} {c : RecordClass}
    {fields : List RecordField} (hkind : schema.kind = .object)
    (hentries : value.entries? = some entries) (htype : type.base = .record ref)
    (hfind : registry.find? ref = some c) (hfields : registry.fields c = .ok fields) {q : Position}
    (h : registry.Enters ⟨schema, value, type⟩ q) :
    ∃ i ∈ schema.inputs entries fields, q = ⟨i.schema, i.value, i.field.hint⟩ := by
  cases h with
  | element harray => rw [hkind] at harray; cases harray
  | input _ hentries' htype' hfind' hfields' hinput =>
    obtain rfl := Option.some.inj (hentries.symm.trans hentries')
    obtain rfl := TypeExpr.record.inj (htype.symm.trans htype')
    obtain ⟨rfl, rfl⟩ := Registry.listed_unique hfind hfields hfind' hfields'
    exact ⟨_, hinput, rfl⟩

theorem unblocked_mapping {form : MappingForm} {arguments : List TypeExpr}
    (hkind : schema.kind = .object) (htype : type.base = .mapping form arguments) :
    registry.Unblocked ⟨schema, value, type⟩ := by
  rw [Registry.unblocked_iff]
  constructor
  · intro hblocked
    cases hblocked with
    | integer hnumber => rw [hkind] at hnumber; cases hnumber
    | destination _ hmapping => exact hmapping form arguments htype
    | unlisted _ hrecord | unmade _ _ hrecord => rw [htype] at hrecord; cases hrecord
  · intro q hq
    cases hq with
    | element harray => rw [hkind] at harray; cases harray
    | input _ _ hrecord => rw [htype] at hrecord; cases hrecord

/-- A record is loaded if its inputs are and it can be built from their fields. -/
theorem exists_load_record_iff {entries : List (Value × Value)} {ref : RecordRef} {c : RecordClass}
    {fields : List RecordField} (hkind : schema.kind = .object)
    (hentries : value.entries? = some entries) (htype : type.base = .record ref)
    (hfind : registry.find? ref = some c) (hfields : registry.fields c = .ok fields)
    (ih : ∀ i ∈ schema.inputs entries fields, (∃ x, (i.load registry).result = .ok x) ↔
      registry.Unblocked ⟨i.schema, i.value, i.field.hint⟩) :
    (∃ x, (schema.load registry value type).result = .ok x) ↔
      registry.Unblocked ⟨schema, value, type⟩ := by
  rw [Registry.unblocked_iff, not_blocked_record_iff hkind hentries htype hfind hfields,
    (load_record hkind hentries htype hfind hfields).1]
  constructor
  · rintro ⟨x, hx⟩
    obtain ⟨values, hvalues, hbuild⟩ := Outcome.bind_eq_ok hx
    constructor
    · rw [← loadInputs_names hvalues, Registry.makes_iff]
      exact ⟨x, hbuild⟩
    · intro q hq
      obtain ⟨i, hi, rfl⟩ := entered_of_record hkind hentries htype hfind hfields hq
      exact (ih i hi).mp (exists_loadInputs_iff.mp ⟨values, hvalues⟩ i hi)
  · rintro ⟨hmakes, hinputs⟩
    have hall : ∀ i ∈ schema.inputs entries fields, ∃ x, (i.load registry).result = .ok x :=
      fun i hi => (ih i hi).mpr (hinputs _ (.input hkind hentries htype hfind hfields hi))
    obtain ⟨values, hvalues⟩ := exists_loadInputs_iff.mpr hall
    rw [← loadInputs_names hvalues, Registry.makes_iff] at hmakes
    obtain ⟨x, hbuild⟩ := hmakes
    exact ⟨x, by rw [hvalues]; exact hbuild⟩

theorem exists_load_object_iff {entries : List (Value × Value)} (hkind : schema.kind = .object)
    (hentries : value.entries? = some entries)
    (ih : ∀ fields, ∀ i ∈ schema.inputs entries fields, (∃ x, (i.load registry).result = .ok x) ↔
      registry.Unblocked ⟨i.schema, i.value, i.field.hint⟩) :
    (∃ x, (schema.load registry value type).result = .ok x) ↔
      registry.Unblocked ⟨schema, value, type⟩ := by
  by_cases hmapping : ∃ form arguments, type.base = .mapping form arguments
  · obtain ⟨form, arguments, htype⟩ := hmapping
    refine iff_of_true ⟨.dict entries, ?_⟩ (unblocked_mapping hkind htype)
    rw [load_mapping hkind hentries htype]
    rfl
  · have hmapping' : ∀ form arguments, type.base ≠ .mapping form arguments :=
      fun form arguments htype => hmapping ⟨form, arguments, htype⟩
    by_cases hrecord : ∃ ref c, type.base = .record ref ∧ registry.find? ref = some c
    · obtain ⟨ref, c, htype, hfind⟩ := hrecord
      cases hfields : registry.fields c with
      | error e =>
        refine iff_of_false ?_ fun h => ?_
        · rintro ⟨x, hx⟩
          exact load_unlisted hkind htype hfind hfields x hx
        · exact (Registry.unblocked_iff.mp h).1 (.unlisted hkind htype hfind hfields)
      | ok fields =>
        exact exists_load_record_iff hkind hentries htype hfind hfields (ih fields)
    · have hrecord' : ∀ ref, type.base = .record ref → registry.find? ref = none := by
        intro ref htype
        rw [Option.eq_none_iff_forall_ne_some]
        exact fun c hfind => hrecord ⟨ref, c, htype, hfind⟩
      refine iff_of_false ?_ fun h => ?_
      · rintro ⟨x, hx⟩
        exact load_refused hkind hmapping' hrecord' x hx
      · exact (Registry.unblocked_iff.mp h).1 (.destination hkind hmapping' hrecord')

/-! ## Arrays -/

/-- An array is loaded if its elements are. -/
theorem exists_load_array_iff {items : List Value} (hkind : schema.kind = .array)
    (hitems : value.items? = some items)
    (ih : ∀ element, schema.elements = some element → ∀ item ∈ items, ∀ type,
      (∃ x, (element.load registry item type).result = .ok x) ↔
        registry.Unblocked ⟨element, item, type⟩) :
    (∃ x, (schema.load registry value type).result = .ok x) ↔
      registry.Unblocked ⟨schema, value, type⟩ := by
  have hhere : ¬ registry.Blocked ⟨schema, value, type⟩ := by
    intro hblocked
    cases hblocked with
    | integer hnumber => rw [hkind] at hnumber; cases hnumber
    | destination hobject | unlisted hobject | unmade hobject =>
      rw [hkind] at hobject
      cases hobject
  rw [Registry.unblocked_iff, load_array hkind hitems, loadElements_result]
  cases helements : schema.elements with
  | none =>
    refine iff_of_true ⟨_, rfl⟩ ⟨hhere, fun q hq => ?_⟩
    cases hq with
    | element _ _ helement => rw [helements] at helement; cases helement
    | input hobject => rw [hkind] at hobject; cases hobject
  | some element =>
    have hall : (∃ x, ((items.mapM fun item =>
        (element.load registry item (Loading.elementType type.base)).result) >>= fun loaded =>
          .ok (Value.list loaded)) = .ok x) ↔ ∀ item ∈ items, ∃ x,
        (element.load registry item (Loading.elementType type.base)).result = .ok x := by
      rw [← Outcome.exists_mapM_eq_ok_iff]
      constructor
      · rintro ⟨x, hx⟩
        obtain ⟨loaded, hloaded, -⟩ := Outcome.bind_eq_ok hx
        exact ⟨loaded, hloaded⟩
      · rintro ⟨loaded, hloaded⟩
        exact ⟨.list loaded, by rw [hloaded]; rfl⟩
    refine hall.trans ?_
    constructor
    · intro h
      refine ⟨hhere, fun q hq => ?_⟩
      cases hq with
      | element _ hitems' helement hitem =>
        obtain rfl := Option.some.inj (hitems.symm.trans hitems')
        obtain rfl := Option.some.inj (helements.symm.trans helement)
        exact (ih element helements _ hitem _).mp (h _ hitem)
      | input hobject => rw [hkind] at hobject; cases hobject
    · rintro ⟨-, h⟩ item hitem
      exact (ih element helements item hitem _).mpr
        (h _ (.element hkind hitems helements hitem))

/-! ## All values -/

/-- An accepted value is loaded if and only if no position that loading comes to is blocked. -/
theorem exists_load_iff (hschema : schema.WellFormed) (haccepts : schema.Accepts value)
    (type : TypeExpr) :
    (∃ x, (schema.load registry value type).result = .ok x) ↔
      registry.Unblocked ⟨schema, value, type⟩ := by
  induction schema using Schema.inductionOn generalizing value type with
  | step schema ihfields ihelements =>
    have hholds := haccepts.holds
    by_cases hobject : schema.kind = .object
    · obtain ⟨entries, hentries⟩ := Kind.Holds.entries (hobject ▸ hholds)
      refine exists_load_object_iff hobject hentries fun fields i hi => ?_
      obtain ⟨p, hp, hsame⟩ := schema_of_input hi
      obtain ⟨hwell, hinput⟩ := accepts_input hschema haccepts hobject hentries hi
      rw [Loading.Input.load, hsame] at *
      exact ihfields p hp hwell hinput _
    · by_cases harray : schema.kind = .array
      · obtain ⟨items, hitems⟩ := Kind.Holds.items (harray ▸ hholds)
        refine exists_load_array_iff harray hitems fun element helement item hitem type => ?_
        have hitemAccepts : element.Accepts item :=
          (accepts_array_iff harray hitems).mp haccepts element helement item hitem
        exact ihelements element helement (hschema.element helement) hitemAccepts type
      · exact exists_load_scalar_iff hobject harray hholds

end Schema
end Schematic
