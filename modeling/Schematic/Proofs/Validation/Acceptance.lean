import Schematic.Proofs.Number.Amount
import Schematic.Proofs.Schema.Induction
import Schematic.Validation

/-!
What it means that a schema accepts a value, said without a search for faults: the value is of
the kind asked for, every declared member is accepted or may be missing, and every element is
accepted.  `validate_eq_ok_iff` says that validation succeeds on exactly the accepted values.

The loops over members and elements are treated apart from the recursion into the parts of a
schema: each of them has a lemma that assumes the statement for those parts.
-/

namespace Schematic

/-- The value is of a kind.  A boolean is no number, a float counts as an integer if its amount
is one, and a text is a point in time if it is a timestamp. -/
inductive Kind.Holds : Kind → Value → Prop
  | boolean (b : Bool) : Holds .boolean (.bool b)
  | string (s : String) : Holds .string (.str s)
  | integer (i : Int) : Holds .integer (.int i)
  | wholeFloat {x : Binary64} (h : x.IsIntegral) : Holds .integer (.float x)
  | integerNumber (i : Int) : Holds .number (.int i)
  | number (x : Binary64) : Holds .number (.float x)
  | datetime (d : DateTime) : Holds .datetime (.datetime d)
  | timestamp {text : String} {d : DateTime} (h : Coercion.parseDateTime text = .ok d) :
      Holds .datetime (.str text)
  | object {value : Value} {entries : List (Value × Value)} (h : value.entries? = some entries) :
      Holds .object value
  | array {value : Value} {items : List Value} (h : value.items? = some items) :
      Holds .array value

/-- A text is accepted as a point in time if it can be parsed as one. -/
theorem Coercion.datetime_accepts_iff (text : String) :
    Coercion.datetime.accepts (.str text) = true ↔ ∃ d, Coercion.parseDateTime text = .ok d := by
  show ((Coercion.parseDateTime text).map Value.datetime).isOk = true ↔ _
  cases Coercion.parseDateTime text with
  | error e => simp [Except.map, Except.isOk, Except.toBool]
  | ok d => simp [Except.map, Except.isOk, Except.toBool]

/-- The kind test accepts exactly the values of the kind. -/
theorem Kind.accepts_iff (kind : Kind) (value : Value) :
    kind.accepts value = true ↔ kind.Holds value := by
  constructor
  · intro h
    cases kind with
    | boolean => cases value <;> first | exact .boolean _ | cases h
    | string => cases value <;> first | exact .string _ | cases h
    | integer =>
      cases value <;> first | exact .integer _ | cases h | skip
      exact .wholeFloat ((Binary64.isWhole_iff _).mp h)
    | number => cases value <;> first | exact .integerNumber _ | exact .number _ | cases h
    | datetime =>
      cases value <;> first | exact .datetime _ | cases h | skip
      obtain ⟨d, hd⟩ := (Coercion.datetime_accepts_iff _).mp h
      exact .timestamp hd
    | object =>
      have hsome : value.entries?.isSome = true := by simpa [accepts] using h
      obtain ⟨entries, hentries⟩ := Option.isSome_iff_exists.mp hsome
      exact .object hentries
    | array =>
      have hsome : value.items?.isSome = true := by simpa [accepts] using h
      obtain ⟨items, hitems⟩ := Option.isSome_iff_exists.mp hsome
      exact .array hitems
  · intro h
    cases h with
    | boolean | string | integer | integerNumber | number | datetime => rfl
    | wholeFloat h => exact (Binary64.isWhole_iff _).mpr h
    | timestamp h => exact (Coercion.datetime_accepts_iff _).mpr ⟨_, h⟩
    | object h => simp [accepts, h]
    | array h => simp [accepts, h]

theorem Kind.Holds.entries {value : Value} (h : Kind.object.Holds value) :
    ∃ entries, value.entries? = some entries := by
  cases h with
  | object h => exact ⟨_, h⟩

theorem Kind.Holds.items {value : Value} (h : Kind.array.Holds value) :
    ∃ items, value.items? = some items := by
  cases h with
  | array h => exact ⟨_, h⟩

/-- What a value is to a kind: one of another kind, a scalar, or an object or an array with its
parts. -/
inductive Kind.Shape (kind : Kind) (value : Value) : Prop
  | other (hholds : ¬ kind.Holds value)
  | scalar (hobject : kind ≠ .object) (harray : kind ≠ .array) (hholds : kind.Holds value)
  | object {entries : List (Value × Value)} (hkind : kind = .object)
      (hentries : value.entries? = some entries)
  | array {items : List Value} (hkind : kind = .array) (hitems : value.items? = some items)

theorem Kind.shape (kind : Kind) (value : Value) : kind.Shape value := by
  by_cases hholds : kind.Holds value
  · by_cases hobject : kind = .object
    · subst hobject
      obtain ⟨entries, hentries⟩ := hholds.entries
      exact .object rfl hentries
    by_cases harray : kind = .array
    · subst harray
      obtain ⟨items, hitems⟩ := hholds.items
      exact .array rfl hitems
    · exact .scalar hobject harray hholds
  · exact .other hholds

/-- A schema accepts a value.  A member that is absent or null has only to be optional. -/
inductive Schema.Accepts : Schema → Value → Prop
  | scalar {schema : Schema} {value : Value} (hobject : schema.kind ≠ .object)
      (harray : schema.kind ≠ .array) (hkind : schema.kind.Holds value) : Accepts schema value
  | object {schema : Schema} {value : Value} {entries : List (Value × Value)}
      (hkind : schema.kind = .object) (hentries : value.entries? = some entries)
      (hmissing : ∀ name field, (name, field) ∈ schema.fields →
        Value.lookup name entries = .null → field.required = false)
      (hmember : ∀ name field, (name, field) ∈ schema.fields →
        Value.lookup name entries ≠ .null → Accepts field.schema (Value.lookup name entries)) :
      Accepts schema value
  | array {schema : Schema} {value : Value} {items : List Value}
      (hkind : schema.kind = .array) (hitems : value.items? = some items)
      (helement : ∀ element, schema.elements = some element →
        ∀ item ∈ items, Accepts element item) :
      Accepts schema value

/-- The entries of an object satisfy a declared member. -/
def Field.Satisfied (name : String) (field : Field) (entries : List (Value × Value)) : Prop :=
  (Value.lookup name entries = .null → field.required = false) ∧
    (Value.lookup name entries ≠ .null → field.schema.Accepts (Value.lookup name entries))

namespace Schema

/-- Acceptance of an object, member by member. -/
theorem accepts_object_iff {schema : Schema} {value : Value} {entries : List (Value × Value)}
    (hkind : schema.kind = .object) (hentries : value.entries? = some entries) :
    schema.Accepts value ↔
      ∀ p ∈ schema.fields, Field.Satisfied p.1 p.2 entries := by
  constructor
  · intro h p hp
    cases h with
    | scalar hobject => exact absurd hkind hobject
    | array harray => rw [hkind] at harray; cases harray
    | object _ hentries' hmissing hmember =>
      obtain rfl := Option.some.inj (hentries.symm.trans hentries')
      exact ⟨hmissing _ _ hp, hmember _ _ hp⟩
  · intro h
    exact .object hkind hentries (fun _ _ hp => (h _ hp).1) (fun _ _ hp => (h _ hp).2)

/-- Acceptance of an array, element by element. -/
theorem accepts_array_iff {schema : Schema} {value : Value} {items : List Value}
    (hkind : schema.kind = .array) (hitems : value.items? = some items) :
    schema.Accepts value ↔
      ∀ element, schema.elements = some element → ∀ item ∈ items, element.Accepts item := by
  constructor
  · intro h
    cases h with
    | scalar _ harray => exact absurd hkind harray
    | object hobject => rw [hkind] at hobject; cases hobject
    | array _ hitems' helement =>
      obtain rfl := Option.some.inj (hitems.symm.trans hitems')
      exact helement
  · exact .array hkind hitems

theorem Accepts.holds {schema : Schema} {value : Value} (h : schema.Accepts value) :
    schema.kind.Holds value := by
  cases h with
  | scalar _ _ hkind => exact hkind
  | object hkind hentries => rw [hkind]; exact .object hentries
  | array hkind hitems => rw [hkind]; exact .array hitems

theorem Accepts.ne_null {schema : Schema} {value : Value} (h : schema.Accepts value) :
    value ≠ .null := by
  rintro rfl
  have hholds := h.holds
  generalize schema.kind = kind at hholds
  cases hholds with
  | object hentries => cases hentries
  | array hitems => cases hitems

/-! ## The steps of validation -/

theorem validate_mismatch {schema : Schema} {value : Value}
    (h : ¬ schema.kind.Holds value) :
    schema.validate value = .error (.here (.mismatch schema.kind)) := by
  obtain ⟨kind, description, fields, elements⟩ := schema
  have hkind : kind.accepts value = false := by
    rw [← Bool.not_eq_true, Kind.accepts_iff]
    exact h
  simp [validate, hkind]

theorem validate_scalar {schema : Schema} {value : Value} (hobject : schema.kind ≠ .object)
    (harray : schema.kind ≠ .array) (h : schema.kind.Holds value) :
    schema.validate value = .ok () := by
  obtain ⟨kind, description, fields, elements⟩ := schema
  have hkind : kind.accepts value = true := (Kind.accepts_iff _ _).mpr h
  cases kind <;> simp_all [validate]

theorem validate_object {schema : Schema} {value : Value} {entries : List (Value × Value)}
    (hkind : schema.kind = .object) (hentries : value.entries? = some entries) :
    schema.validate value = validateFields schema.fields entries := by
  obtain ⟨kind, description, fields, elements⟩ := schema
  obtain rfl : kind = .object := hkind
  simp [validate, Kind.accepts, hentries]

theorem validate_array {schema : Schema} {value : Value} {items : List Value}
    (hkind : schema.kind = .array) (hitems : value.items? = some items) :
    schema.validate value = validateElements schema.elements items := by
  obtain ⟨kind, description, fields, elements⟩ := schema
  obtain rfl : kind = .array := hkind
  simp [validate, Kind.accepts, hitems]

theorem validateMember_eq (name : String) (field : Field) (value : Value) :
    validateMember name field value =
      if value.isNull then if field.required then .error (.here (.missing name)) else .ok ()
      else (field.schema.validate value).mapError (·.within (.member name)) := by
  obtain ⟨schema, required, default, tags⟩ := field
  rfl

theorem validateFields_cons (name : String) (field : Field) (rest : List (String × Field))
    (entries : List (Value × Value)) :
    validateFields ((name, field) :: rest) entries =
      (validateMember name field (Value.lookup name entries)).bind fun _ =>
        validateFields rest entries := rfl

theorem eachElement_cons (check : Value → Except Failure Unit) (index : Nat) (item : Value)
    (rest : List Value) :
    Validation.eachElement check index (item :: rest) =
      ((check item).mapError (·.within (.element index))).bind fun _ =>
        Validation.eachElement check (index + 1) rest := rfl

/-! ## Acceptance -/

theorem validateMember_eq_ok_iff {name : String} {field : Field}
    {entries : List (Value × Value)}
    (ih : ∀ value, field.schema.validate value = .ok () ↔ field.schema.Accepts value) :
    validateMember name field (Value.lookup name entries) = .ok () ↔
      field.Satisfied name entries := by
  rw [validateMember_eq]
  by_cases hnull : Value.lookup name entries = .null
  · cases hrequired : field.required <;>
      simp [hnull, Value.isNull, Field.Satisfied, hrequired]
  · rw [Value.isNull_eq_false hnull, Field.Satisfied, ← ih]
    cases field.schema.validate (Value.lookup name entries) <;>
      simp [Except.mapError, hnull]

theorem validateFields_eq_ok_iff {fields : List (String × Field)}
    {entries : List (Value × Value)}
    (ih : ∀ p ∈ fields, ∀ value, p.2.schema.validate value = .ok () ↔ p.2.schema.Accepts value) :
    validateFields fields entries = .ok () ↔ ∀ p ∈ fields, Field.Satisfied p.1 p.2 entries := by
  induction fields with
  | nil => simp [validateFields]
  | cons p rest ihrest =>
    obtain ⟨name, field⟩ := p
    have hmember := @validateMember_eq_ok_iff name field entries
      (ih (name, field) List.mem_cons_self)
    have hrest := ihrest fun q hq => ih q (List.mem_cons_of_mem _ hq)
    rw [validateFields_cons, List.forall_mem_cons, ← hmember, ← hrest]
    cases validateMember name field (Value.lookup name entries) <;> simp [Except.bind]

theorem eachElement_eq_ok_iff {element : Schema} {items : List Value} {index : Nat}
    (ih : ∀ value, element.validate value = .ok () ↔ element.Accepts value) :
    Validation.eachElement (fun item => element.validate item) index items = .ok () ↔
      ∀ item ∈ items, element.Accepts item := by
  induction items generalizing index with
  | nil => simp [Validation.eachElement]
  | cons item rest ihrest =>
    rw [eachElement_cons, List.forall_mem_cons, ← ih, ← @ihrest (index + 1)]
    cases element.validate item <;> simp [Except.bind, Except.mapError]

/-- Validation succeeds on exactly the accepted values. -/
theorem validate_eq_ok_iff (schema : Schema) (value : Value) :
    schema.validate value = .ok () ↔ schema.Accepts value := by
  induction schema using Schema.inductionOn generalizing value with
  | step schema ihfields ihelements =>
    cases schema.kind.shape value with
    | other hholds =>
      rw [validate_mismatch hholds]
      exact iff_of_false nofun fun h => hholds h.holds
    | scalar hobject harray hholds =>
      exact iff_of_true (validate_scalar hobject harray hholds) (.scalar hobject harray hholds)
    | object hkind hentries =>
      rw [validate_object hkind hentries, accepts_object_iff hkind hentries]
      exact validateFields_eq_ok_iff ihfields
    | @array items hkind hitems =>
      rw [validate_array hkind hitems, accepts_array_iff hkind hitems]
      cases helements : schema.elements with
      | none => simp [validateElements]
      | some element =>
        have hall := @eachElement_eq_ok_iff element items 0 (ihelements element helements)
        simpa [validateElements] using hall

end Schema
end Schematic
