import Schematic.Proofs.Schema.Revision

/-!
Validation of revised values.  Of an object, validation reads what is under the names of the
declared members and nothing else, so it does not see a change of entries that keeps them.  Writing
in defaults does change members, but only absent or null ones, and a default is accepted by the
schema of its member.
-/

namespace Schematic
namespace Schema

variable {change : EntryChange} {schema : Schema} {value : Value}

theorem validateFields_congr {fields : List (String × Field)}
    {entries entries' : List (Value × Value)}
    (h : ∀ p ∈ fields, validateMember p.1 p.2 (Value.lookup p.1 entries) =
      validateMember p.1 p.2 (Value.lookup p.1 entries')) :
    validateFields fields entries = validateFields fields entries' := by
  induction fields with
  | nil => rfl
  | cons p rest ih =>
    obtain ⟨hfirst, hrest⟩ := List.forall_mem_cons.mp h
    rw [validateFields_cons, validateFields_cons, hfirst, ih hrest]

theorem eachElement_map {check : Value → Except Failure Unit} {f : Value → Value}
    (h : ∀ item, check (f item) = check item) (index : Nat) (items : List Value) :
    Validation.eachElement check index (items.map f) =
      Validation.eachElement check index items := by
  induction items generalizing index with
  | nil => rfl
  | cons item rest ih =>
    rw [List.map_cons, eachElement_cons, eachElement_cons, h, ih]

theorem validateMember_revise {field : Field} (name : String)
    (h : ∀ value, field.schema.validate (field.schema.revise change value) =
      field.schema.validate value) (value : Value) :
    validateMember name field (field.schema.revise change value) =
      validateMember name field value := by
  rw [validateMember_eq, validateMember_eq, isNull_revise, h]

theorem validate_revise (hkeeps : KeepsMembers change) (hnames : schema.DistinctNames)
    (value : Value) : schema.validate (schema.revise change value) = schema.validate value := by
  induction schema using Schema.inductionOn generalizing value with
  | step schema ihfields ihelements =>
    cases schema.kind.shape value with
    | other hholds => rw [revise_of_not_holds hholds]
    | scalar hobject harray => rw [revise_scalar hobject harray]
    | @object entries hkind hentries =>
      by_cases hopen : schema.fields = []
      · rw [revise_open hkind hopen]
      rw [revise_object hkind hopen, validate_object hkind (Value.entries?_mapEntries hentries),
        validate_object hkind hentries]
      refine validateFields_congr fun p hp => ?_
      rw [hkeeps schema.fields _ p hp, lookup_reviseEntries hnames.nodup hp]
      exact validateMember_revise p.1 (ihfields p hp (hnames.field hp)) _
    | @array items hkind hitems =>
      rw [revise_array hkind, validate_array hkind hitems]
      cases helements : schema.elements with
      | none => exact (validate_array hkind hitems).trans (by rw [helements])
      | some element =>
        have hitems' : (reviseElements change (some element) value).items? =
            some (items.map fun item => element.revise change item) :=
          Value.items?_mapItems hitems
        rw [validate_array hkind hitems', helements]
        exact eachElement_map (ihelements element helements (hnames.element helements)) 0 items

/-- A value that is accepted stays so when defaults are written in. -/
theorem Accepts.fill (h : schema.Accepts value) (hschema : schema.WellFormed) :
    schema.Accepts (schema.fill value) := by
  unfold Schema.fill
  induction h with
  | scalar hobject harray hholds =>
    rw [revise_scalar hobject harray]
    exact .scalar hobject harray hholds
  | @object schema value entries hkind hentries hmissing hmember ih =>
    by_cases hopen : schema.fields = []
    · rw [revise_open hkind hopen]
      exact .object hkind hentries hmissing hmember
    rw [revise_object hkind hopen, accepts_object_iff hkind (Value.entries?_mapEntries hentries)]
    intro p hp
    have hread : Value.lookup p.1 (withDefaults schema.fields
        (reviseEntries withDefaults schema.fields entries)) =
          if (Value.lookup p.1 entries).isNull then p.2.default
          else p.2.schema.revise withDefaults (Value.lookup p.1 entries) := by
      rw [lookup_withDefaults hschema.nodup hp, lookup_reviseEntries hschema.nodup hp,
        isNull_revise]
    unfold Field.Satisfied
    rw [hread]
    -- A member that was absent is not required, so it may stay absent where there is no default.
    cases hnull : (Value.lookup p.1 entries).isNull with
    | true =>
      rw [if_pos rfl]
      refine ⟨fun _ => hmissing _ _ hp (Value.isNull_iff.mp hnull), fun hpresent => ?_⟩
      exact (hschema.hasDefault hp).accepts hpresent
    | false =>
      have hpresent : Value.lookup p.1 entries ≠ .null := fun heq => by
        rw [Value.isNull_iff.mpr heq] at hnull
        cases hnull
      have haccepts := ih _ _ hp hpresent (hschema.field hp)
      rw [if_neg Bool.false_ne_true]
      exact ⟨fun heq => absurd heq haccepts.ne_null, fun _ => haccepts⟩
  | @array schema value items hkind hitems helement ih =>
    rw [revise_array hkind]
    cases helements : schema.elements with
    | none => exact .array hkind hitems helement
    | some element =>
      refine .array hkind (Value.items?_mapItems hitems) fun element' helement' => ?_
      obtain rfl := Option.some.inj (helements.symm.trans helement')
      intro item hitem
      obtain ⟨item, hmem, rfl⟩ := List.mem_map.mp hitem
      exact ih element helements item hmem (hschema.element helements)

end Schema
end Schematic
