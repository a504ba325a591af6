import Schematic.Proofs.Derivation.Existence

/-!
The place that a derivation fails at.  A failure names the declared fields that lead there, and
`Registry.Leads` follows them: from record to record through the types of fields, and in between
through extras and elements of arrays only, which leave no name.  On the way every field declared
before the one that is entered has a schema and takes its tag.  The records that are entered are
those above the place, so that one that comes up again there is among its own ancestors.

`derive_eq_failure_iff_failsFirst` gives the failures of derivation as exactly these, and
`failure_located` reads the report off them.
-/

namespace Schematic

variable {registry : Registry}

/-- A type of none of the forms that a schema is derived from. -/
def TypeExpr.IsUnsupported : TypeExpr → Prop
  | .scalar _ | .openArray _ | .array _ _ | .mapping _ _ | .record _ | .annotated _ _ => False
  | _ => True

theorem Underivable.within_eq_failure {u : Underivable} {step : Step} {f : Failure}
    (h : u.within step = .failure f) : ∃ g, u = .failure g ∧ f = g.within step := by
  cases u with
  | failure g => exact ⟨g, rfl, (Underivable.failure.inj h).symm⟩
  | fault fault => cases h

namespace Registry

/-- A field has a schema and takes its tag. -/
def Derives [Text.Repertoire] (registry : Registry) (field : RecordField) : Prop :=
  ∃ schema member, registry.Describes field.hint schema ∧
    Tag.parse schema.toField field.tag = .ok member

/-- A type leads to a place inside it, by the names of the fields on the way.  With each of the two
go the records that are above it. -/
inductive Leads [Text.Repertoire] (registry : Registry) :
    List RecordRef → TypeExpr → List String → List RecordRef → TypeExpr → Prop
  | here (above : List RecordRef) (type : TypeExpr) : Leads registry above type [] above type
  | base {above inside : List RecordRef} {base place : TypeExpr} {names : List String}
      (extras : List Extra) (hrest : Leads registry above base names inside place) :
      Leads registry above (.annotated base extras) names inside place
  | element {above inside : List RecordRef} {element place : TypeExpr} {names : List String}
      (form : ArrayForm) (hrest : Leads registry above element names inside place) :
      Leads registry above (.array form element) names inside place
  | field {above inside : List RecordRef} {ref : RecordRef} {c : RecordClass}
      {before after : List RecordField} {f : RecordField} {names : List String} {place : TypeExpr}
      (hnew : ref ∉ above) (hfind : registry.find? ref = some c)
      (hfields : registry.fields c = .ok (before ++ f :: after))
      (hbefore : ∀ g ∈ before, registry.Derives g)
      (hrest : Leads registry (ref :: above) f.hint names inside place) :
      Leads registry above (.record ref) (memberName f.name :: names) inside place

/-- What is wrong with a type itself, below the records above it. -/
inductive Fails [Text.Repertoire] (registry : Registry) (above : List RecordRef) : TypeExpr →
    Cause → Prop
  | unsupported {type : TypeExpr} (hform : type.IsUnsupported) (hshown : type.unset? = none) :
      Fails registry above type (.unsupportedType type.display none)
  | undefined {ref : RecordRef} (hnew : ref ∉ above) (hfind : registry.find? ref = none) :
      Fails registry above (.record ref)
        (.unsupportedType (TypeExpr.record ref).display none)
  | unlisted {ref : RecordRef} {c : RecordClass} {e : Reference.Error} {reason : Report.Cause}
      (hnew : ref ∉ above) (hfind : registry.find? ref = some c)
      (hfields : registry.fields c = .error e) (hreason : e.reason? = some reason) :
      Fails registry above (.record ref) (.unsupportedType ref.name (some reason))
  | recursive {ref : RecordRef} (habove : ref ∈ above) :
      Fails registry above (.record ref) (.recursiveType ref.name)
  | tag {ref : RecordRef} {c : RecordClass} {before after : List RecordField} {f : RecordField}
      {schema : Schema} {cause : Cause} (hnew : ref ∉ above) (hfind : registry.find? ref = some c)
      (hfields : registry.fields c = .ok (before ++ f :: after))
      (hbefore : ∀ g ∈ before, registry.Derives g) (hhint : registry.Describes f.hint schema)
      (htag : Tag.parse schema.toField f.tag = .error cause) :
      Fails registry above (.record ref) cause

/-- The first failure of a type, with the fields that lead to it. -/
inductive FailsFirst [Text.Repertoire] (registry : Registry) (above : List RecordRef)
    (type : TypeExpr) :
    Failure → Prop
  | place {names : List String} {inside : List RecordRef} {place : TypeExpr} {cause : Cause}
      (hleads : registry.Leads above type names inside place)
      (hfails : registry.Fails inside place cause) :
      FailsFirst registry above type ⟨cause, names.map .field⟩

theorem Fails.failsFirst [Text.Repertoire] {above : List RecordRef} {type : TypeExpr}
    {cause : Cause}
    (h : registry.Fails above type cause) : registry.FailsFirst above type (.here cause) :=
  .place (.here above type) h

theorem FailsFirst.field [Text.Repertoire] {above : List RecordRef} {ref : RecordRef}
    {c : RecordClass}
    {before after : List RecordField} {f : RecordField} {failure : Failure} (hnew : ref ∉ above)
    (hfind : registry.find? ref = some c)
    (hfields : registry.fields c = .ok (before ++ f :: after))
    (hbefore : ∀ g ∈ before, registry.Derives g)
    (h : registry.FailsFirst (ref :: above) f.hint failure) :
    registry.FailsFirst above (.record ref) (failure.within (.field (memberName f.name))) := by
  cases h with
  | place hleads hfails => exact .place (.field hnew hfind hfields hbefore hleads) hfails

end Registry

namespace Derivation

/-! ## Failures are first failures -/

theorem unsupported_eq_failure {type : TypeExpr} {f : Failure}
    (h : unsupported type = .failure f) :
    type.unset? = none ∧ f = .here (.unsupportedType type.display none) := by
  unfold unsupported at h
  split at h
  next => cases h
  next hshown => exact ⟨hshown, (Underivable.failure.inj h).symm⟩

theorem unlisted_eq_failure {ref : RecordRef} {e : Reference.Error} {f : Failure}
    (h : unlisted ref e = .failure f) :
    ∃ reason, e.reason? = some reason ∧ f = .here (.unsupportedType ref.name (some reason)) := by
  unfold unlisted at h
  split at h
  next reason hreason => exact ⟨reason, hreason, (Underivable.failure.inj h).symm⟩
  next => cases h

theorem derives_of_ofField [Text.Repertoire] {seen : List RecordRef} {field : RecordField}
    (h : ∃ member, ofField (ofType fun inner => ofRecord registry seen inner) field = .ok member) :
    registry.Derives field := by
  obtain ⟨_, hmember⟩ := h
  obtain ⟨schema, hschema, member, hparse, -⟩ := ofField_eq_ok hmember
  exact ⟨schema, member, describes_of_ofType (fun _ _ => describes_of_ofRecord) hschema, hparse⟩

theorem failsFirst_of_ofType [Text.Repertoire] {above : List RecordRef}
    {onRecord : RecordRef → Except Underivable Schema}
    (hrecord : ∀ ref f, onRecord ref = .error (.failure f) →
      registry.FailsFirst above (.record ref) f)
    {type : TypeExpr} {f : Failure} (h : ofType onRecord type = .error (.failure f)) :
    registry.FailsFirst above type f := by
  fun_induction ofType onRecord type with
  | case1 s => cases h
  | case2 form => cases h
  | case3 form element ih =>
    cases ih (Outcome.map_eq_error h) with
    | place hleads hfails => exact .place (.element form hleads) hfails
  | case4 form arguments => cases h
  | case5 ref => exact hrecord ref f h
  | case6 base extras ih =>
    cases ih h with
    | place hleads hfails => exact .place (.base extras hleads) hfails
  | case7 type =>
    obtain ⟨hshown, rfl⟩ := unsupported_eq_failure (Except.error.inj h)
    have hform : type.IsUnsupported := by cases type <;> simp_all [TypeExpr.IsUnsupported]
    exact (Registry.Fails.unsupported hform hshown).failsFirst

theorem failsFirst_of_ofRecord [Text.Repertoire] {seen : List RecordRef} {ref : RecordRef}
    {f : Failure} (h : ofRecord registry seen ref = .error (.failure f)) :
    registry.FailsFirst seen (.record ref) f := by
  fun_induction ofRecord registry seen ref generalizing f with
  | case1 seen ref hmem =>
    obtain rfl := Underivable.failure.inj (Except.error.inj h)
    exact (Registry.Fails.recursive hmem).failsFirst
  | case2 seen ref hnew hfind =>
    obtain ⟨-, rfl⟩ := unsupported_eq_failure (Except.error.inj h)
    exact (Registry.Fails.undefined hnew hfind).failsFirst
  | case3 seen ref hnew c hfind e hfields =>
    obtain ⟨reason, hreason, rfl⟩ := unlisted_eq_failure (Except.error.inj h)
    exact (Registry.Fails.unlisted hnew hfind hfields hreason).failsFirst
  | case4 seen ref hnew c hfind fields hfields ih =>
    rcases Outcome.bind_eq_error h with hmembers | ⟨members, -, h⟩
    · obtain ⟨before, field, after, rfl, hearlier, hfield⟩ := ofFields_eq_error hmembers
      have hbefore : ∀ g ∈ before, registry.Derives g := fun g hg =>
        derives_of_ofField (hearlier g hg)
      -- A failure inside the type of the field comes with a step more, one of its tag without.
      rcases ofField_eq_error hfield with ⟨reason, hreason, hf⟩ | ⟨schema, cause, hhint, htag, hf⟩
      · obtain ⟨inner, rfl, rfl⟩ := Underivable.within_eq_failure hf.symm
        exact .field hnew hfind hfields hbefore (failsFirst_of_ofType (fun r _ => ih r) hreason)
      · obtain rfl := Underivable.failure.inj hf
        have hdescribes := describes_of_ofType (fun _ _ => describes_of_ofRecord) hhint
        exact (Registry.Fails.tag hnew hfind hfields hbefore hdescribes htag).failsFirst
    · cases h

/-! ## First failures are reported -/

theorem ofType_unsupported {onRecord : RecordRef → Except Underivable Schema} {type : TypeExpr}
    (h : type.IsUnsupported) : ofType onRecord type = .error (unsupported type) := by
  cases type <;> first | rfl | cases h

theorem ofFields_append_cons [Text.Repertoire] {derive : TypeExpr → Except Underivable Schema}
    {before after : List RecordField} {f : RecordField} {u : Underivable}
    (hbefore : ∀ g ∈ before, ∃ member, ofField derive g = .ok member)
    (h : ofField derive f = .error u) : ofFields derive (before ++ f :: after) = .error u := by
  induction before with
  | nil =>
    rw [List.nil_append, ofFields, h]
    rfl
  | cons g before ih =>
    obtain ⟨⟨member, hmember⟩, hrest⟩ := List.forall_mem_cons.mp hbefore
    rw [List.cons_append, ofFields, hmember]
    show (ofFields derive (before ++ f :: after) >>= fun members => _) = _
    rw [ih hrest]
    rfl

end Derivation

namespace Registry

/-- A type is inside each of the records above it. -/
def IsBelow (registry : Registry) (type : TypeExpr) (above : List RecordRef) : Prop :=
  ∀ r ∈ above, Relation.TransGen registry.Inner type (.record r)

theorem IsBelow.inner {type inner : TypeExpr} {above : List RecordRef}
    (h : registry.IsBelow type above) (hinner : registry.Inner inner type) :
    registry.IsBelow inner above :=
  fun r hr => .head hinner (h r hr)

theorem IsBelow.cons {ref : RecordRef} {inner : TypeExpr} {above : List RecordRef}
    (h : registry.IsBelow (.record ref) above) (hinner : registry.Inner inner (.record ref)) :
    registry.IsBelow inner (ref :: above) :=
  List.forall_mem_cons.mpr ⟨.single hinner, h.inner hinner⟩

/-- A field that derives becomes a member also below the records that its type is inside of. -/
theorem Derives.exists_ofField [Text.Repertoire] {field : RecordField} {above : List RecordRef}
    (h : registry.Derives field) (hbelow : registry.IsBelow field.hint above) :
    ∃ member, Derivation.ofField (Derivation.ofType (Derivation.ofRecord registry above)) field =
      .ok member := by
  obtain ⟨schema, member, hdescribes, hparse⟩ := h
  have hhint := hdescribes.ofType_below hbelow
  exact ⟨(memberName field.name, member), by simp only [Derivation.ofField, hhint, hparse]⟩

end Registry

namespace Derivation

/-- A record fails as the first of its fields that fails. -/
theorem ofRecord_of_field [Text.Repertoire] {above : List RecordRef} {ref : RecordRef}
    {c : RecordClass}
    {before after : List RecordField} {f : RecordField} {u : Underivable} (hnew : ref ∉ above)
    (hfind : registry.find? ref = some c)
    (hfields : registry.fields c = .ok (before ++ f :: after))
    (hbefore : ∀ g ∈ before, registry.Derives g) (hbelow : registry.IsBelow (.record ref) above)
    (h : ofField (ofType (ofRecord registry (ref :: above))) f = .error u) :
    ofRecord registry above ref = .error u := by
  -- The types of the fields are inside all the records above, so that none of these comes up in
  -- one that has a schema.
  have hmembers : ∀ g ∈ before, ∃ member,
      ofField (ofType (ofRecord registry (ref :: above))) g = .ok member := by
    intro g hg
    have hmem : g ∈ before ++ f :: after := List.mem_append_left _ hg
    exact (hbefore g hg).exists_ofField (hbelow.cons (.hint hfind hfields hmem))
  rw [ofRecord_eq hnew hfind hfields, ofFields_append_cons hmembers h]
  rfl

theorem ofType_of_fails [Text.Repertoire] {above : List RecordRef} {type : TypeExpr} {cause : Cause}
    (hbelow : registry.IsBelow type above) (h : registry.Fails above type cause) :
    ofType (ofRecord registry above) type = .error cause.underivable := by
  cases h with
  | unsupported hform hshown => rw [ofType_unsupported hform, unsupported, hshown]
  | @undefined ref hnew hfind =>
    show ofRecord registry above ref = _
    rw [ofRecord, dif_neg hnew]
    split
    next => rfl
    next hsome => rw [hfind] at hsome; cases hsome
  | @unlisted ref c e reason hnew hfind hfields hreason =>
    show ofRecord registry above ref = _
    rw [ofRecord_of_find hnew hfind, hfields]
    show Except.error (unlisted ref e) = _
    rw [unlisted, hreason]
  | @recursive ref habove =>
    show ofRecord registry above ref = _
    rw [ofRecord, dif_pos habove]
  | @tag ref c before after f schema cause hnew hfind hfields hbefore hhint htag =>
    have hinner : registry.Inner f.hint (.record ref) :=
      .hint hfind hfields List.mem_append_cons_self
    have hderived := hhint.ofType_below (hbelow.cons hinner)
    refine ofRecord_of_field hnew hfind hfields hbefore hbelow ?_
    simp only [ofField, hderived, htag]

theorem ofType_of_leads [Text.Repertoire] {above inside : List RecordRef} {type place : TypeExpr}
    {names : List String} {cause : Cause}
    (hleads : registry.Leads above type names inside place) (hbelow : registry.IsBelow type above)
    (hfails : registry.Fails inside place cause) :
    ofType (ofRecord registry above) type = .error (.failure ⟨cause, names.map .field⟩) := by
  induction hleads with
  | here above type => exact ofType_of_fails hbelow hfails
  | base extras _ ih => exact ih (hbelow.inner (.base _ extras)) hfails
  | @element above _ element _ _ form _ ih =>
    show (ofType (ofRecord registry above) element).map Schema.arrayOf = _
    rw [ih (hbelow.inner (.element form element)) hfails]
    rfl
  | @field above _ ref c before after f names _ hnew hfind hfields hbefore _ ih =>
    have hinner : registry.Inner f.hint (.record ref) :=
      .hint hfind hfields List.mem_append_cons_self
    have hrest := ih (hbelow.cons hinner) hfails
    refine ofRecord_of_field hnew hfind hfields hbefore hbelow ?_
    simp only [ofField, hrest]
    rfl

end Derivation

namespace Registry

/-- A derivation fails with exactly the first failure of a type that can be shown. -/
theorem derive_eq_failure_iff_failsFirst [Text.Repertoire] {type : TypeExpr} {f : Failure} :
    registry.derive type = .error (.failure f) ↔
      registry.FailsFirst [] type f ∧ type.unset? = none := by
  rw [derive_eq_failure_iff]
  refine and_congr_left fun _ => ⟨?_, ?_⟩
  · exact Derivation.failsFirst_of_ofType fun _ _ => Derivation.failsFirst_of_ofRecord
  · rintro ⟨hleads, hfails⟩
    exact Derivation.ofType_of_leads hleads (List.forall_mem_nil _) hfails

/-! ## Reports of first failures -/

/-- What keeps a type from having a schema is told without a path of its own. -/
theorem Fails.report_path [Text.Repertoire] {above : List RecordRef} {type : TypeExpr}
    {cause : Cause} (h : registry.Fails above type cause) : cause.report.path = [] := by
  have hmissing : ∀ name, cause ≠ .missing name := by
    rintro name rfl
    cases h with
    | tag _ _ _ _ _ htag =>
      have hcategory := Tag.parse_category htag
      rw [show (Cause.missing name).report.code = .requiredFieldMissing from rfl] at hcategory
      exact absurd hcategory (by decide)
  exact cause.report_path hmissing

/-- The report of a derivation that fails tells of the place that the fields named by its path lead
to, past fields that derive: it is what is said of that place alone, with the labels of the fields
in front of the message. -/
theorem failure_located [Text.Repertoire] {type : TypeExpr} {f : Failure}
    (h : registry.derive type = .error (.failure f)) :
    ∃ names inside place, registry.Leads [] type names inside place ∧
      registry.Fails inside place f.cause ∧ f.report.path = names.map .str ∧
      f.cause.report.path = [] ∧ f.report.Keeps f.cause.report ∧
      ∃ text, f.cause.report.message = .str text ∧
        f.report.message = .str (": ".intercalate (names.map ("field " ++ ·) ++ [text])) := by
  cases (derive_eq_failure_iff_failsFirst.mp h).1 with
  | @place names inside place cause hleads hfails =>
    have hpath := hfails.report_path
    refine ⟨names, inside, place, hleads, hfails, ?_, hpath, Failure.report_keeps _,
      cause.report.text, cause.message_report, ?_⟩
    · rw [Failure.report_path, hpath, List.append_nil, List.map_map]
      rfl
    · rw [Failure.report_message, List.map_map]
      rfl

def pitRef : RecordRef := ⟨2, .data, recordModule, "Pit", false⟩

def raceRef : RecordRef := ⟨3, .data, recordModule, "Race", false⟩

def cupRef : RecordRef := ⟨4, .data, recordModule, "Cup", false⟩

def pitDecl : RecordDecl :=
  ⟨"Pit", .data, [⟨"Name", .scalar .str, none, "required:\"true\"", true, false⟩,
    ⟨"CrewSize", .scalar .int, none, "default:\"many\"", true, false⟩], [], false⟩

def raceDecl : RecordDecl :=
  ⟨"Race", .data, [⟨"Title", .scalar .str, none, "", true, false⟩,
    ⟨"Pits", .annotated (.array .list (.record pitRef)) [.tag "tags:\"lane\""], none, "", true, false⟩],
    [], false⟩

def cupDecl : RecordDecl :=
  ⟨"Cup", .data, [⟨"RaceDays", .array .list (.record raceRef), none, "", true, false⟩], [], false⟩

def pitClass : RecordClass :=
  ⟨pitRef, [pitRef, .root], pitDecl.fields, some pitDecl.fields, []⟩

def raceClass : RecordClass :=
  ⟨raceRef, [raceRef, .root], raceDecl.fields, some raceDecl.fields, []⟩

def cupClass : RecordClass :=
  ⟨cupRef, [cupRef, .root], cupDecl.fields, some cupDecl.fields, []⟩

def cups : Registry := ⟨initial.classes ++ [pitClass, raceClass, cupClass]⟩

theorem defineAll_cups : initial.defineAll [pitDecl, raceDecl, cupDecl] = .ok cups := by
  have hpit : initial.define pitDecl = .ok ⟨initial.classes ++ [pitClass]⟩ :=
    define_data rfl rfl (by decide +kernel)
  have hrace : (⟨initial.classes ++ [pitClass]⟩ : Registry).define raceDecl =
      .ok ⟨initial.classes ++ [pitClass, raceClass]⟩ :=
    define_data rfl rfl (by decide +kernel)
  have hcup : (⟨initial.classes ++ [pitClass, raceClass]⟩ : Registry).define cupDecl = .ok cups :=
    define_data rfl rfl (by decide +kernel)
  have hdefined : [pitDecl, raceDecl, cupDecl].foldlM define initial = .ok cups := by
    rw [Outcome.foldlM_cons_of_ok hpit, Outcome.foldlM_cons_of_ok hrace,
      Outcome.foldlM_cons_of_ok hcup]
    rfl
  have hsettled : cups.settleFrom initial.classes.length = .ok cups := rfl
  exact defineAll_of_settled hdefined hsettled

def crewSizeFailure : Failure :=
  ⟨.invalidLiteral .integer "many" true, [.field "race_days", .field "pits"]⟩

/-- A default that is no number is told of by the fields that lead to its record, without its own.
-/
theorem failure_located_crewSize :
    initial.defineAll [pitDecl, raceDecl, cupDecl] = .ok cups ∧
      crewSizeFailure.report.message =
        .str "field race_days: field pits: invalid integer: \"many\"" ∧
      ∃ names inside place, cups.Leads [] (.record cupRef) names inside place ∧
        cups.Fails inside place crewSizeFailure.cause ∧
        crewSizeFailure.report.path = names.map .str ∧
        crewSizeFailure.cause.report.path = [] ∧
        crewSizeFailure.report.Keeps crewSizeFailure.cause.report ∧
        ∃ text, crewSizeFailure.cause.report.message = .str text ∧
          crewSizeFailure.report.message =
            .str (": ".intercalate (names.map ("field " ++ ·) ++ [text])) := by
  have houtcome : (cups.derive (.record cupRef)).map (fun _ => ()) =
      .error (.failure crewSizeFailure) := by
    decide +kernel
  exact ⟨defineAll_cups, by rfl, failure_located (Outcome.map_eq_error houtcome)⟩

end Registry
end Schematic
