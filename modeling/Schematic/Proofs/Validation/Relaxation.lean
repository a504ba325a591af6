import Mathlib.Logic.Relation
import Schematic.Proofs.Validation.Acceptance

/-!
Schemas that ask for less.  A schema is relaxed by changes of single nodes at any depth: a member is
made optional or is dropped, an object or an array is opened, an integer may be any number.  Each
of these keeps what was accepted, at the node and from there outwards, and so do any number of them
one after the other.

A change of what a schema only says, which is its descriptions, defaults and labels, is not seen by
validation at all: not even the failures differ.
-/

namespace Schematic
namespace Schema

/-! ## Changes -/

/-- One declared member is replaced by another of the same name. -/
inductive Replaces (field field' : Field) : Schema → Schema → Prop
  | intro {schema : Schema} {before after : List (String × Field)} {name : String}
      (hfields : schema.fields = before ++ (name, field) :: after) :
      Replaces field field' schema { schema with fields := before ++ (name, field') :: after }

/-- A change of what a node says without asking for it. -/
inductive Relabels : Schema → Schema → Prop
  | description (schema : Schema) (description : String) :
      Relabels schema { schema with description }
  | member {schema changed : Schema} {field : Field} (default : Value) (tags : List String)
      (h : Replaces field { field with default, tags } schema changed) : Relabels schema changed

/-- A change by which a node asks for less, or for the same. -/
inductive Relaxes : Schema → Schema → Prop
  | relabelled {schema changed : Schema} (h : Relabels schema changed) : Relaxes schema changed
  | optional {schema changed : Schema} {field : Field}
      (h : Replaces field { field with required := false } schema changed) :
      Relaxes schema changed
  /-- Without its last member an object is open. -/
  | dropped {schema : Schema} {before after : List (String × Field)} {member : String × Field}
      (hfields : schema.fields = before ++ member :: after) :
      Relaxes schema { schema with fields := before ++ after }
  | openObject (schema : Schema) : Relaxes schema { schema with fields := [] }
  | openArray (schema : Schema) : Relaxes schema { schema with elements := none }
  | number {schema : Schema} (hkind : schema.kind = .integer) :
      Relaxes schema { schema with kind := .number }

/-- A change of one node, at any depth. -/
inductive Somewhere (change : Schema → Schema → Prop) : Schema → Schema → Prop
  | here {schema changed : Schema} (h : change schema changed) : Somewhere change schema changed
  | field {schema changed inner : Schema} {field : Field}
      (h : Somewhere change field.schema inner)
      (hreplaces : Replaces field { field with schema := inner } schema changed) :
      Somewhere change schema changed
  | element {schema element inner : Schema} (h : Somewhere change element inner)
      (helement : schema.elements = some element) :
      Somewhere change schema { schema with elements := some inner }

/-- Any number of changes, one after the other. -/
abbrev Changes (change : Schema → Schema → Prop) : Schema → Schema → Prop :=
  Relation.ReflTransGen (Somewhere change)

variable {schema changed inner element : Schema} {field field' : Field} {value : Value}

/-! ## What validation does not see -/

theorem validateFields_replace {before after : List (String × Field)} {name : String}
    {entries : List (Value × Value)}
    (h : ∀ value, validateMember name field' value = validateMember name field value) :
    validateFields (before ++ (name, field') :: after) entries =
      validateFields (before ++ (name, field) :: after) entries := by
  induction before with
  | nil => rw [List.nil_append, List.nil_append, validateFields_cons, validateFields_cons, h]
  | cons p rest ih =>
    rw [List.cons_append, List.cons_append, validateFields_cons, validateFields_cons, ih]

/-- Schemas of one kind validate alike if their fields and their elements do. -/
theorem validate_congr (hkind : changed.kind = schema.kind)
    (hfields : ∀ entries, validateFields changed.fields entries = validateFields schema.fields entries)
    (helements : ∀ items,
      validateElements changed.elements items = validateElements schema.elements items)
    (value : Value) : changed.validate value = schema.validate value := by
  obtain ⟨kind, _, fields, elements⟩ := schema
  obtain ⟨kind', _, fields', elements'⟩ := changed
  obtain rfl : kind' = kind := hkind
  change ∀ entries, validateFields fields' entries = validateFields fields entries at hfields
  change ∀ items, validateElements elements' items = validateElements elements items at helements
  cases kind' <;> simp only [validate, hfields, helements]

theorem validate_replace (hreplaces : Replaces field field' schema changed)
    (h : ∀ name value, validateMember name field' value = validateMember name field value)
    (value : Value) : changed.validate value = schema.validate value := by
  cases hreplaces with
  | @intro before after name hfields =>
    refine validate_congr (by rfl) (fun entries => ?_) (fun _ => by rfl) value
    rw [hfields]
    exact validateFields_replace (h name)

theorem validate_element (helement : schema.elements = some element)
    (h : ∀ value, inner.validate value = element.validate value) (value : Value) :
    { schema with elements := some inner }.validate value = schema.validate value := by
  refine validate_congr (by rfl) (fun _ => by rfl) (fun items => ?_) value
  rw [helement, validateElements, validateElements, funext h]

theorem Relabels.validate_eq (h : Relabels schema changed) (value : Value) :
    changed.validate value = schema.validate value := by
  cases h with
  | description description =>
    obtain ⟨kind, _, fields, elements⟩ := schema
    rfl
  | member default tags hreplaces =>
    refine validate_replace hreplaces (fun name value => ?_) value
    rw [validateMember_eq, validateMember_eq]

theorem Somewhere.validate_eq (h : Somewhere Relabels schema changed) (value : Value) :
    changed.validate value = schema.validate value := by
  induction h generalizing value with
  | here h => exact h.validate_eq value
  | field _ hreplaces ih =>
    refine validate_replace hreplaces (fun name value => ?_) value
    rw [validateMember_eq, validateMember_eq, ih]
  | element _ helement ih => exact validate_element helement ih value

/-! ## What stays accepted -/

/-- An accepted value stays so when the declared members ask for less of it. -/
theorem Accepts.withFields {fields : List (String × Field)} (h : schema.Accepts value)
    (hfields : ∀ entries, (∀ p ∈ schema.fields, Field.Satisfied p.1 p.2 entries) →
      ∀ p ∈ fields, Field.Satisfied p.1 p.2 entries) :
    { schema with fields }.Accepts value := by
  let changed : Schema := { schema with fields }
  cases schema.kind.shape value with
  | other hholds => exact absurd h.holds hholds
  | scalar hobject harray hholds => exact .scalar hobject harray hholds
  | @object entries hkind hentries =>
    exact (@accepts_object_iff changed value _ hkind hentries).mpr
      (hfields entries ((accepts_object_iff hkind hentries).mp h))
  | array hkind hitems =>
    exact (@accepts_array_iff changed value _ hkind hitems).mpr
      ((accepts_array_iff hkind hitems).mp h)

/-- An accepted value stays so when less is asked of its elements. -/
theorem Accepts.withElements {elements : Option Schema} (h : schema.Accepts value)
    (helements : ∀ inner, elements = some inner → ∃ element, schema.elements = some element ∧
      ∀ item, element.Accepts item → inner.Accepts item) :
    { schema with elements }.Accepts value := by
  let changed : Schema := { schema with elements }
  cases schema.kind.shape value with
  | other hholds => exact absurd h.holds hholds
  | scalar hobject harray hholds => exact .scalar hobject harray hholds
  | object hkind hentries =>
    exact (@accepts_object_iff changed value _ hkind hentries).mpr
      ((accepts_object_iff hkind hentries).mp h)
  | array hkind hitems =>
    refine (@accepts_array_iff changed value _ hkind hitems).mpr fun inner hinner item hitem => ?_
    obtain ⟨element, helement, hless⟩ := helements inner hinner
    exact hless item ((accepts_array_iff hkind hitems).mp h element helement item hitem)

theorem Accepts.replace (hreplaces : Replaces field field' schema changed)
    (hless : ∀ name entries, field.Satisfied name entries → field'.Satisfied name entries)
    (h : schema.Accepts value) : changed.Accepts value := by
  cases hreplaces with
  | intro hfields =>
    refine h.withFields fun entries hall => ?_
    rw [hfields, List.forall_mem_append, List.forall_mem_cons] at hall
    rw [List.forall_mem_append, List.forall_mem_cons]
    exact ⟨hall.1, hless _ entries hall.2.1, hall.2.2⟩

theorem holds_number_of_integer (h : Kind.integer.Holds value) : Kind.number.Holds value := by
  cases h with
  | integer i => exact .integerNumber i
  | @wholeFloat x _ => exact .number x

theorem Relaxes.accepts (hrelaxes : Relaxes schema changed) (h : schema.Accepts value) :
    changed.Accepts value := by
  cases hrelaxes with
  | relabelled hrelabels =>
    rw [← validate_eq_ok_iff] at h ⊢
    rw [hrelabels.validate_eq, h]
  | optional hreplaces =>
    exact h.replace hreplaces fun name entries hsatisfied => ⟨fun _ => rfl, hsatisfied.2⟩
  | dropped hfields =>
    refine h.withFields fun entries hall p hp => hall p ?_
    rw [hfields]
    rcases List.mem_append.mp hp with hbefore | hafter
    · exact List.mem_append_left _ hbefore
    · exact List.mem_append_right _ (List.mem_cons_of_mem _ hafter)
  | openObject => exact h.withFields fun entries _ => nofun
  | openArray => exact h.withElements nofun
  | number hkind =>
    have hholds := h.holds
    rw [hkind] at hholds
    exact .scalar nofun nofun (holds_number_of_integer hholds)

/-- A node at any depth that asks for less leaves every accepted value accepted. -/
theorem Somewhere.accepts (hrelaxes : Somewhere Relaxes schema changed) (h : schema.Accepts value) :
    changed.Accepts value := by
  induction hrelaxes generalizing value with
  | here hrelaxes => exact hrelaxes.accepts h
  | field _ hreplaces ih =>
    exact h.replace hreplaces fun name entries hsatisfied =>
      ⟨hsatisfied.1, fun hpresent => ih (hsatisfied.2 hpresent)⟩
  | @element schema element inner _ helement ih =>
    refine h.withElements fun other hother => ⟨element, helement, fun item hitem => ?_⟩
    exact Option.some.inj hother ▸ ih hitem

/-- Relaxing a schema, by any number of changes at any depth, never refuses a value that was
accepted; and if only descriptions, defaults and labels are changed, the outcome is the same for
every value. -/
theorem validate_changed (schema changed : Schema) :
    (Changes Relaxes schema changed → ∀ value, schema.validate value = .ok () →
        changed.validate value = .ok ()) ∧
      (Changes Relabels schema changed → ∀ value,
        changed.validate value = schema.validate value) := by
  constructor
  · intro h value hvalid
    rw [validate_eq_ok_iff] at hvalid ⊢
    induction h with
    | refl => exact hvalid
    | tail _ hstep ih => exact hstep.accepts ih
  · intro h value
    induction h with
    | refl => rfl
    | tail _ hstep ih => rw [hstep.validate_eq, ih]

/-- A list of amounts with a note each: the amount may be any number, then also be missing, and the
note is dropped.  A description and a default of the amount change nothing at all. -/
theorem validate_changed_amounts :
    let note : String × Field := ("note", ⟨.ofKind .string, true, .null, []⟩)
    let amount : Field := ⟨.ofKind .integer, true, .null, []⟩
    let entry (amount : Field) (rest : List (String × Field)) : Schema :=
      .objectOf (("amount", amount) :: rest)
    let asked : Schema := .arrayOf (entry amount [note])
    let relaxed : Schema := .arrayOf (entry (Schema.ofKind .number).toField [])
    let described : Field := { amount with schema.description := "in all" }
    let labelled : Schema :=
      .arrayOf (entry { described with default := .int 0, tags := ["sum"] } [note])
    let value : Value := .list [.object [("amount", .int 3), ("note", .str "a")]]
    asked.validate value = .ok () ∧ Changes Relaxes asked relaxed ∧
      relaxed.validate value = .ok () ∧ Changes Relabels asked labelled ∧
      labelled.validate (.list [.object []]) = asked.validate (.list [.object []]) := by
  intro note amount entry asked relaxed described labelled value
  have haccepted : asked.validate value = .ok () := by decide
  have hrelaxed : Changes Relaxes asked relaxed :=
    .tail (.tail (.tail .refl
      (.element (.field (.here (.number rfl)) (@Replaces.intro _ _ _ [] [note] "amount" rfl)) rfl))
      (.element (.here (.optional (@Replaces.intro _ _ _ [] [note] "amount" rfl))) rfl))
      (.element (.here (@Relaxes.dropped _ [("amount", (Schema.ofKind .number).toField)] [] note
        rfl)) rfl)
  have hlabelled : Changes Relabels asked labelled :=
    .tail (.tail .refl
      (.element (.field (.here (.description _ "in all"))
        (@Replaces.intro _ _ _ [] [note] "amount" rfl)) rfl))
      (.element (.here (@Relabels.member _ _ described (.int 0) ["sum"]
        (@Replaces.intro _ _ _ [] [note] "amount" rfl))) rfl)
  exact ⟨haccepted, hrelaxed, (validate_changed asked relaxed).1 hrelaxed value haccepted,
    hlabelled, (validate_changed asked labelled).2 hlabelled _⟩

end Schema
end Schematic
