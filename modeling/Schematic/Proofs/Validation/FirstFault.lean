import Schematic.Proofs.Failure.Path
import Schematic.Proofs.Validation.Acceptance

/-!
The fault that validation reports.  A failure names a position by the steps that lead to it, and
`Schema.Leads` follows these steps through the schema and the value together; on the way, every
member declared before the one that is entered, and every element before it, is accepted.  A
first fault is a position reached in this way with a value of the wrong kind, or with a required
member that is absent or null.

`validate_eq_error_iff` says that validation fails with exactly the first fault, and
`validate_exact` says it of the report, in which a missing member is the last segment of the path.
-/

namespace Schematic
namespace Schema

/-- The steps lead from a schema and a value to a part of each, past accepted parts only. -/
inductive Leads : Schema → Value → List Step → Schema → Value → Prop
  | here (schema : Schema) (value : Value) : Leads schema value [] schema value
  | member {schema node : Schema} {value reached : Value} {steps : List Step}
      {entries : List (Value × Value)} {before after : List (String × Field)} {name : String}
      {field : Field} (hkind : schema.kind = .object) (hentries : value.entries? = some entries)
      (hfields : schema.fields = before ++ (name, field) :: after)
      (hbefore : ∀ p ∈ before, Field.Satisfied p.1 p.2 entries)
      (hpresent : Value.lookup name entries ≠ .null)
      (hrest : Leads field.schema (Value.lookup name entries) steps node reached) :
      Leads schema value (.member name :: steps) node reached
  | element {schema node element : Schema} {value item reached : Value} {steps : List Step}
      {before after : List Value} (hkind : schema.kind = .array)
      (hitems : value.items? = some (before ++ item :: after))
      (helement : schema.elements = some element) (hbefore : ∀ i ∈ before, element.Accepts i)
      (hrest : Leads element item steps node reached) :
      Leads schema value (.element before.length :: steps) node reached

/-- A required member of an object is absent or null, and the members declared before it are
accepted. -/
structure Lacks (schema : Schema) (value : Value) (name : String) : Prop where
  isObject : schema.kind = .object
  lacking : ∃ entries before field after, value.entries? = some entries ∧
    schema.fields = before ++ (name, field) :: after ∧
    (∀ p ∈ before, Field.Satisfied p.1 p.2 entries) ∧
    field.required = true ∧ Value.lookup name entries = .null

/-- The first fault of a value, with the steps that lead to it. -/
inductive FirstFault (schema : Schema) (value : Value) : Failure → Prop
  | mismatch {node : Schema} {reached : Value} {steps : List Step}
      (hleads : Leads schema value steps node reached) (hkind : ¬ node.kind.Holds reached) :
      FirstFault schema value ⟨.mismatch node.kind, steps⟩
  | missing {node : Schema} {reached : Value} {steps : List Step} {name : String}
      (hleads : Leads schema value steps node reached) (hlacks : node.Lacks reached name) :
      FirstFault schema value ⟨.missing name, steps⟩

theorem FirstFault.member {schema : Schema} {value : Value} {failure : Failure}
    {entries : List (Value × Value)} {before after : List (String × Field)} {name : String}
    {field : Field} (hkind : schema.kind = .object) (hentries : value.entries? = some entries)
    (hfields : schema.fields = before ++ (name, field) :: after)
    (hbefore : ∀ p ∈ before, Field.Satisfied p.1 p.2 entries)
    (hpresent : Value.lookup name entries ≠ .null)
    (h : FirstFault field.schema (Value.lookup name entries) failure) :
    FirstFault schema value (failure.within (.member name)) := by
  cases h with
  | mismatch hleads hnode =>
    exact .mismatch (.member hkind hentries hfields hbefore hpresent hleads) hnode
  | missing hleads hlacks =>
    exact .missing (.member hkind hentries hfields hbefore hpresent hleads) hlacks

theorem FirstFault.element {schema element : Schema} {value item : Value} {failure : Failure}
    {before after : List Value} (hkind : schema.kind = .array)
    (hitems : value.items? = some (before ++ item :: after))
    (helement : schema.elements = some element) (hbefore : ∀ i ∈ before, element.Accepts i)
    (h : FirstFault element item failure) :
    FirstFault schema value (failure.within (.element before.length)) := by
  cases h with
  | mismatch hleads hnode =>
    exact .mismatch (.element hkind hitems helement hbefore hleads) hnode
  | missing hleads hlacks =>
    exact .missing (.element hkind hitems helement hbefore hleads) hlacks

/-! ## Failures are first faults -/

/-- Where the members of an object fail: the first one that is not satisfied. -/
theorem validateFields_error {fields : List (String × Field)} {entries : List (Value × Value)}
    {failure : Failure} (h : validateFields fields entries = .error failure) :
    ∃ before name field after, fields = before ++ (name, field) :: after ∧
      (∀ p ∈ before, Field.Satisfied p.1 p.2 entries) ∧
      validateMember name field (Value.lookup name entries) = .error failure := by
  induction fields with
  | nil => cases h
  | cons p rest ih =>
    obtain ⟨name, field⟩ := p
    rw [validateFields_cons] at h
    cases hmember : validateMember name field (Value.lookup name entries) with
    | error other =>
      rw [hmember] at h
      obtain rfl : other = failure := Except.error.inj h
      exact ⟨[], name, field, rest, rfl, nofun, hmember⟩
    | ok _ =>
      rw [hmember] at h
      obtain ⟨before, name', field', after, hfields, hbefore, herror⟩ := ih h
      refine ⟨(name, field) :: before, name', field', after, by rw [hfields]; rfl, ?_, herror⟩
      have hhead := (validateMember_eq_ok_iff (validate_eq_ok_iff field.schema)).mp hmember
      exact List.forall_mem_cons.mpr ⟨hhead, hbefore⟩

/-- Why a declared member fails: it is missing, or its value fails. -/
theorem validateMember_error {name : String} {field : Field} {value : Value} {failure : Failure}
    (h : validateMember name field value = .error failure) :
    (field.required = true ∧ value = .null ∧ failure = .here (.missing name)) ∨
      (value ≠ .null ∧ ∃ inner, field.schema.validate value = .error inner ∧
        failure = inner.within (.member name)) := by
  rw [validateMember_eq] at h
  by_cases hnull : value = .null
  · subst hnull
    cases hrequired : field.required with
    | false => rw [hrequired] at h; cases h
    | true =>
      rw [hrequired] at h
      exact .inl ⟨rfl, rfl, (Except.error.inj h).symm⟩
  · rw [Value.isNull_eq_false hnull] at h
    cases hinner : field.schema.validate value with
    | ok _ => rw [hinner] at h; cases h
    | error inner =>
      rw [hinner] at h
      exact .inr ⟨hnull, inner, rfl, (Except.error.inj h).symm⟩

/-- Where the elements of an array fail, counted from the place of the first one. -/
theorem eachElement_error {element : Schema} {items : List Value} {index : Nat}
    {failure : Failure}
    (h : Validation.eachElement (fun item => element.validate item) index items =
      .error failure) :
    ∃ before item after inner, items = before ++ item :: after ∧
      (∀ i ∈ before, element.Accepts i) ∧ element.validate item = .error inner ∧
      failure = inner.within (.element (index + before.length)) := by
  induction items generalizing index with
  | nil => cases h
  | cons item rest ih =>
    rw [eachElement_cons] at h
    cases hitem : element.validate item with
    | error inner =>
      rw [hitem] at h
      exact ⟨[], item, rest, inner, rfl, nofun, hitem, (Except.error.inj h).symm⟩
    | ok _ =>
      rw [hitem] at h
      obtain ⟨before, item', after, inner, hitems, hbefore, herror, hfailure⟩ := ih h
      refine ⟨item :: before, item', after, inner, by rw [hitems]; rfl, ?_, herror, ?_⟩
      · exact List.forall_mem_cons.mpr ⟨(validate_eq_ok_iff element item).mp hitem, hbefore⟩
      · rw [hfailure, List.length_cons]
        congr 2
        omega

theorem firstFault_of_validate {schema : Schema} {value : Value} {failure : Failure}
    (h : schema.validate value = .error failure) : FirstFault schema value failure := by
  induction schema using Schema.inductionOn generalizing value failure with
  | step schema ihfields ihelements =>
    cases schema.kind.shape value with
    | other hholds =>
      rw [validate_mismatch hholds] at h
      obtain rfl := Except.error.inj h
      exact .mismatch (.here schema value) hholds
    | scalar hobject harray hholds =>
      rw [validate_scalar hobject harray hholds] at h
      cases h
    | @object entries hkind hentries =>
      rw [validate_object hkind hentries] at h
      obtain ⟨before, name, field, after, hfields, hbefore, herror⟩ := validateFields_error h
      rcases validateMember_error herror with
        ⟨hrequired, hnull, rfl⟩ | ⟨hpresent, inner, hinner, rfl⟩
      · exact .missing (.here schema value)
          ⟨hkind, entries, before, field, after, hentries, hfields, hbefore, hrequired, hnull⟩
      · have hmem : (name, field) ∈ schema.fields := by rw [hfields]; simp
        exact .member hkind hentries hfields hbefore hpresent (ihfields _ hmem hinner)
    | array hkind hitems =>
      rw [validate_array hkind hitems] at h
      cases helements : schema.elements with
      | none => rw [helements] at h; cases h
      | some element =>
        rw [helements] at h
        obtain ⟨before, item, after, inner, rfl, hbefore, herror, rfl⟩ := eachElement_error h
        rw [Nat.zero_add]
        exact .element hkind hitems helements hbefore (ihelements element helements herror)

/-! ## First faults are reported -/

/-- Members that are satisfied are passed over. -/
theorem validateFields_append {before rest : List (String × Field)}
    {entries : List (Value × Value)} (hbefore : ∀ p ∈ before, Field.Satisfied p.1 p.2 entries) :
    validateFields (before ++ rest) entries = validateFields rest entries := by
  induction before with
  | nil => rfl
  | cons p before ih =>
    obtain ⟨name, field⟩ := p
    obtain ⟨hhead, htail⟩ := List.forall_mem_cons.mp hbefore
    rw [List.cons_append, validateFields_cons, ih htail,
      (validateMember_eq_ok_iff (validate_eq_ok_iff field.schema)).mpr hhead]
    rfl

/-- Elements that are accepted are passed over. -/
theorem eachElement_append {element : Schema} {before rest : List Value} {index : Nat}
    (hbefore : ∀ i ∈ before, element.Accepts i) :
    Validation.eachElement (fun item => element.validate item) index (before ++ rest) =
      Validation.eachElement (fun item => element.validate item) (index + before.length)
        rest := by
  induction before generalizing index with
  | nil => rfl
  | cons item before ih =>
    obtain ⟨hhead, htail⟩ := List.forall_mem_cons.mp hbefore
    rw [List.cons_append, eachElement_cons, (validate_eq_ok_iff element item).mpr hhead]
    show Validation.eachElement _ (index + 1) (before ++ rest) = _
    rw [ih htail, List.length_cons]
    congr 1
    omega

/-- A failure at the end of a way is the failure at its beginning, seen from there. -/
theorem validate_of_leads {schema node : Schema} {value reached : Value} {steps : List Step}
    (hleads : Leads schema value steps node reached) {cause : Cause}
    (h : node.validate reached = .error ⟨cause, []⟩) :
    schema.validate value = .error ⟨cause, steps⟩ := by
  induction hleads with
  | here => exact h
  | member hkind hentries hfields hbefore hpresent _ ih =>
    rw [validate_object hkind hentries, hfields, validateFields_append hbefore,
      validateFields_cons, validateMember_eq, Value.isNull_eq_false hpresent, ih h]
    rfl
  | element hkind hitems helement hbefore _ ih =>
    rw [validate_array hkind hitems, helement]
    show Validation.eachElement _ 0 _ = _
    rw [eachElement_append hbefore, eachElement_cons, ih h, Nat.zero_add]
    rfl

theorem validate_of_lacks {schema : Schema} {value : Value} {name : String}
    (h : schema.Lacks value name) : schema.validate value = .error (.here (.missing name)) := by
  obtain ⟨hkind, entries, before, field, after, hentries, hfields, hbefore, hrequired, hnull⟩ := h
  rw [validate_object hkind hentries, hfields, validateFields_append hbefore,
    validateFields_cons, validateMember_eq, hnull, hrequired]
  rfl

/-- Validation fails with exactly the first fault. -/
theorem validate_eq_error_iff (schema : Schema) (value : Value) (failure : Failure) :
    schema.validate value = .error failure ↔ FirstFault schema value failure := by
  constructor
  · exact firstFault_of_validate
  · intro h
    cases h with
    | mismatch hleads hkind => exact validate_of_leads hleads (validate_mismatch hkind)
    | missing hleads hlacks => exact validate_of_leads hleads (validate_of_lacks hlacks)

/-! ## Reports of first faults -/

theorem report_mismatch (kind : Kind) (steps : List Step) :
    (Failure.mk (.mismatch kind) steps).report.code =
        (if kind = .datetime then .invalidDate else .invalidType) ∧
      (Failure.mk (.mismatch kind) steps).report.path = steps.map Step.toValue := by
  rw [Failure.report_code, Failure.report_path]
  rw [Cause.report_path (by simp), List.append_nil]
  exact ⟨by cases kind <;> rfl, rfl⟩

theorem report_missing (name : String) (steps : List Step) :
    (Failure.mk (.missing name) steps).report.code = .requiredFieldMissing ∧
      (Failure.mk (.missing name) steps).report.path =
        steps.map Step.toValue ++ [.str name] := by
  rw [Failure.report_code, Failure.report_path]
  exact ⟨rfl, rfl⟩

/-- Validation accepts exactly what the schema accepts, and otherwise reports the first fault:
the path of the report leads, past accepted members and elements only, to an object that lacks
the required member named last, or to a value that is not of the kind asked for there. -/
theorem validate_exact (schema : Schema) (value : Value) :
    (schema.validate value = .ok () ↔ schema.Accepts value) ∧
      ∀ failure, schema.validate value = .error failure →
        ∃ node reached steps, Leads schema value steps node reached ∧
          ((∃ name, node.Lacks reached name ∧
              failure.report.code = .requiredFieldMissing ∧
              failure.report.path = steps.map Step.toValue ++ [.str name]) ∨
            (¬ node.kind.Holds reached ∧
              failure.report.code =
                (if node.kind = .datetime then .invalidDate else .invalidType) ∧
              failure.report.path = steps.map Step.toValue)) := by
  refine ⟨validate_eq_ok_iff schema value, fun failure hfailure => ?_⟩
  cases (validate_eq_error_iff schema value failure).mp hfailure with
  | mismatch hleads hkind =>
    exact ⟨_, _, _, hleads, .inr ⟨hkind, report_mismatch _ _⟩⟩
  | missing hleads hlacks =>
    exact ⟨_, _, _, hleads, .inl ⟨_, hlacks, report_missing _ _⟩⟩

/-- The second element of a list lacks its required name. -/
theorem validate_exact_second_element :
    ∃ schema value failure, Schema.validate schema value = .error failure ∧
      failure.report.path = [.str "items", .int 1, .str "name"] ∧
      ∃ node reached steps, Leads schema value steps node reached ∧
        ((∃ name, node.Lacks reached name ∧
            failure.report.code = .requiredFieldMissing ∧
            failure.report.path = steps.map Step.toValue ++ [.str name]) ∨
          (¬ node.kind.Holds reached ∧
            failure.report.code =
              (if node.kind = .datetime then .invalidDate else .invalidType) ∧
            failure.report.path = steps.map Step.toValue)) :=
  let item : Schema := .objectOf [("name", ⟨.ofKind .string, true, .null, []⟩)]
  let schema : Schema := .objectOf [("items", (Schema.arrayOf item).toField)]
  let value : Value := .object [("items", .list [.object [("name", .str "a")], .object []])]
  ⟨schema, value, _, rfl, rfl, (validate_exact schema value).2 _ rfl⟩

end Schema
end Schematic
