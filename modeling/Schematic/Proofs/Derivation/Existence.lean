import Schematic.Proofs.Derivation.Describes
import Schematic.Proofs.Failure.Path
import Schematic.Proofs.Record.Definition
import Schematic.Proofs.Tag.Acceptance
import Schematic.Record.Instance

/-!
Which types have a schema.  What derivation asks of a type is asked of each type inside it alone:
its form, and of a record that it is defined, that its fields can be listed and that their tags fit
the kinds of their types.  Of all of them together it asks that no record is inside itself.

The records that are seen on the way are those that the type at hand is inside of.  This is the
invariant of both halves: a record that is found among them is inside itself, and one that is not
inside itself is never found among them, however many ways lead to it.

A type with a schema is shown for the log once it is derived, so that one that cannot be shown has
no result at all.
-/

namespace Schematic

/-- The kind of the values of a type, for the forms of type that can have a schema. -/
def TypeExpr.kind? : TypeExpr → Option Kind
  | .scalar s => some s.kind
  | .openArray _ => some .array
  | .array _ _ => some .array
  | .mapping _ _ => some .object
  | .record _ => some .object
  | .annotated base _ => base.kind?
  | _ => none

/-- A tag is accepted for fields of a type: the kind of the type is all that counts. -/
def TypeExpr.TakesTag [Text.Repertoire] (type : TypeExpr) (tag : String) : Prop :=
  ∃ kind, type.kind? = some kind ∧
    ∃ field, Tag.parse (Schema.ofKind kind).toField tag = .ok field

namespace Registry

variable {registry : Registry}

/-- What derivation asks of a type alone, whatever is inside it. -/
inductive Formed [Text.Repertoire] (registry : Registry) : TypeExpr → Prop
  | scalar (s : Scalar) : Formed registry (.scalar s)
  | openArray (form : ArrayForm) : Formed registry (.openArray form)
  | array (form : ArrayForm) (element : TypeExpr) : Formed registry (.array form element)
  | mapping (form : MappingForm) (arguments : List TypeExpr) :
      Formed registry (.mapping form arguments)
  | annotated (base : TypeExpr) (extras : List Extra) : Formed registry (.annotated base extras)
  | record {ref : RecordRef} {c : RecordClass} {fields : List RecordField}
      (hfind : registry.find? ref = some c) (hfields : registry.fields c = .ok fields)
      (htags : ∀ f ∈ fields, f.hint.TakesTag f.tag) : Formed registry (.record ref)

/-- A record is inside itself. -/
def Recursive (registry : Registry) (ref : RecordRef) : Prop :=
  Relation.TransGen registry.Inner (.record ref) (.record ref)

/-- What derivation asks of a type. -/
structure Derivable [Text.Repertoire] (registry : Registry) (type : TypeExpr) : Prop where
  formed : ∀ inner, registry.Within inner type → registry.Formed inner
  acyclic : ∀ ref, registry.Within (.record ref) type → ¬ registry.Recursive ref 
theorem Derivable.within [Text.Repertoire] {type inner : TypeExpr} (h : registry.Derivable type)
    (hwithin : registry.Within inner type) : registry.Derivable inner :=
  ⟨fun _ hinner => h.formed _ (hinner.trans hwithin),
    fun _ hinner => h.acyclic _ (hinner.trans hwithin)⟩

/-! ## Types with a schema are derivable -/

theorem Describes.kind?_eq [Text.Repertoire] {type : TypeExpr} {schema : Schema}
    (h : registry.Describes type schema) : type.kind? = some schema.kind := by
  induction h with
  | annotated _ _ ih => exact ih
  | _ => rfl

/-- A tag that a field of the schema takes is accepted for the type. -/
theorem Describes.takesTag_iff [Text.Repertoire] {type : TypeExpr} {schema : Schema}
    (h : registry.Describes type schema) (tag : String) :
    type.TakesTag tag ↔ ∃ field, Tag.parse schema.toField tag = .ok field := by
  have hsame : Tag.SameKind (Schema.ofKind schema.kind).toField schema.toField := rfl
  constructor
  · rintro ⟨kind, hkind, field, hfield⟩
    obtain rfl : schema.kind = kind := Option.some.inj (h.kind?_eq.symm.trans hkind)
    obtain ⟨field', hfield', -⟩ := (Tag.parse_alike hsame tag).eq_ok hfield
    exact ⟨field', hfield'⟩
  · rintro ⟨field, hfield⟩
    obtain ⟨field', hfield', -⟩ := (Tag.parse_alike hsame tag).symm.eq_ok hfield
    exact ⟨schema.kind, h.kind?_eq, field', hfield'⟩

theorem Describes.formed [Text.Repertoire] {type : TypeExpr} {schema : Schema}
    (h : registry.Describes type schema) : registry.Formed type := by
  cases h with
  | scalar s => exact .scalar s
  | openArray form => exact .openArray form
  | array => exact .array _ _
  | mapping form arguments => exact .mapping form arguments
  | annotated extras => exact .annotated _ extras
  | record hfind hfields hhints htags =>
    refine .record hfind hfields fun f hf => ?_
    exact ((hhints f hf).takesTag_iff f.tag).mpr ⟨_, htags f hf⟩

theorem Describes.not_recursive [Text.Repertoire] {ref : RecordRef} {schema : Schema}
    (h : registry.Describes (.record ref) schema) : ¬ registry.Recursive ref := by
  intro hcycle
  obtain ⟨inner, hwithin, hinner⟩ := Relation.TransGen.tail'_iff.mp hcycle
  exact h.not_within hinner hwithin

theorem Describes.derivable [Text.Repertoire] {type : TypeExpr} {schema : Schema}
    (h : registry.Describes type schema) : registry.Derivable type := by
  constructor
  · intro inner hwithin
    obtain ⟨_, hinner⟩ := h.of_within hwithin
    exact hinner.formed
  · intro ref hwithin
    obtain ⟨_, hrecord⟩ := h.of_within hwithin
    exact hrecord.not_recursive

end Registry

namespace Derivation

variable {registry : Registry}

/-! ## Derivable types have a schema -/

theorem exists_ofType [Text.Repertoire] {onRecord : RecordRef → Except Underivable Schema}
    {type : TypeExpr} (hformed : ∀ inner, registry.Within inner type → registry.Formed inner)
    (hrecord : ∀ ref, registry.Within (.record ref) type → ∃ schema, onRecord ref = .ok schema) :
    ∃ schema, ofType onRecord type = .ok schema := by
  fun_induction ofType onRecord type with
  | case1 s => exact ⟨_, rfl⟩
  | case2 form => exact ⟨_, rfl⟩
  | case3 form element ih =>
    have hstep : registry.Within element (.array form element) := .single (.element form element)
    obtain ⟨schema, hschema⟩ := ih (fun inner h => hformed inner (h.trans hstep))
      (fun ref h => hrecord ref (h.trans hstep))
    exact ⟨.arrayOf schema, by rw [hschema]; rfl⟩
  | case4 form arguments => exact ⟨_, rfl⟩
  | case5 ref => exact hrecord ref .refl
  | case6 base extras ih =>
    have hstep : registry.Within base (.annotated base extras) := .single (.base base extras)
    exact ih (fun inner h => hformed inner (h.trans hstep)) fun ref h => hrecord ref (h.trans hstep)
  | case7 => cases hformed _ .refl <;> simp_all

theorem exists_ofFields [Text.Repertoire] {derive : TypeExpr → Except Underivable Schema}
    {fields : List RecordField} (h : ∀ f ∈ fields, ∃ member, ofField derive f = .ok member) :
    ∃ members, ofFields derive fields = .ok members := by
  induction fields with
  | nil => exact ⟨[], rfl⟩
  | cons field rest ih =>
    obtain ⟨⟨member, hmember⟩, hrest⟩ := List.forall_mem_cons.mp h
    obtain ⟨members, hmembers⟩ := ih hrest
    refine ⟨member :: members, ?_⟩
    rw [ofFields, hmember]
    show (ofFields derive rest >>= fun members => _) = _
    rw [hmembers]
    rfl

/-- A derivable record that is inside all the records seen has a schema below them. -/
theorem exists_ofRecord [Text.Repertoire] {seen : List RecordRef} {ref : RecordRef}
    (h : registry.Derivable (.record ref))
    (hseen : ∀ r ∈ seen, Relation.TransGen registry.Inner (.record ref) (.record r)) :
    ∃ schema, ofRecord registry seen ref = .ok schema := by
  fun_induction ofRecord registry seen ref with
  | case1 seen ref hmem => exact absurd (hseen ref hmem) (h.acyclic ref .refl)
  | case2 seen ref _ hnone =>
    cases h.formed _ .refl with
    | record hfind => rw [hnone] at hfind; cases hfind
  | case3 seen ref _ c hc e hlisted =>
    cases h.formed _ .refl with
    | record hfind hfields =>
      obtain rfl := Option.some.inj (hc.symm.trans hfind)
      rw [hlisted] at hfields
      cases hfields
  | case4 seen ref _ c hfind fields hfields ih =>
    have htags : ∀ f ∈ fields, f.hint.TakesTag f.tag := by
      cases h.formed _ .refl with
      | record hfind' hfields' htags =>
        obtain ⟨rfl, rfl⟩ := Registry.listed_unique hfind hfields hfind' hfields'
        exact htags
    have hmembers : ∀ f ∈ fields, ∃ member,
        ofField (ofType fun inner => ofRecord registry (ref :: seen) inner) f = .ok member := by
      intro f hf
      have hinner : registry.Inner f.hint (.record ref) := .hint hfind hfields hf
      have hhint := h.within (.single hinner)
      -- A record inside the field is inside this record, and so inside all that this one is in.
      have hbelow : ∀ inner, registry.Within (.record inner) f.hint → ∀ r ∈ ref :: seen,
          Relation.TransGen registry.Inner (.record inner) (.record r) := by
        intro inner hwithin r hr
        have hstep : Relation.TransGen registry.Inner (.record inner) (.record ref) :=
          .tail' hwithin hinner
        rcases List.mem_cons.mp hr with rfl | hr
        · exact hstep
        · exact hstep.trans (hseen r hr)
      have hrecords : ∀ inner, registry.Within (.record inner) f.hint →
          ∃ schema, ofRecord registry (ref :: seen) inner = .ok schema := by
        intro inner hwithin
        exact ih inner (hhint.within hwithin) (hbelow inner hwithin)
      obtain ⟨schema, hschema⟩ := exists_ofType hhint.formed hrecords
      have hdescribes := describes_of_ofType (fun _ _ => describes_of_ofRecord) hschema
      obtain ⟨field, hfield⟩ := (hdescribes.takesTag_iff f.tag).mp (htags f hf)
      refine ⟨(memberName f.name, field), ?_⟩
      simp only [ofField, hschema, hfield]
    obtain ⟨members, hmembers⟩ := exists_ofFields hmembers
    exact ⟨.objectOf (collect members), by rw [hmembers]; rfl⟩

/-! ## Records inside themselves -/

theorem ofField_eq_error [Text.Repertoire] {derive : TypeExpr → Except Underivable Schema}
    {field : RecordField} {u : Underivable} (h : ofField derive field = .error u) :
    (∃ reason, derive field.hint = .error reason ∧
        u = reason.within (.field (memberName field.name))) ∨
      ∃ schema cause, derive field.hint = .ok schema ∧
        Tag.parse schema.toField field.tag = .error cause ∧ u = cause.underivable := by
  unfold ofField at h
  cases hderive : derive field.hint with
  | error reason =>
    rw [hderive] at h
    exact .inl ⟨reason, rfl, (Except.error.inj h).symm⟩
  | ok schema =>
    rw [hderive] at h
    cases hparse : Tag.parse schema.toField field.tag with
    | ok member => simp only [hparse] at h; cases h
    | error cause =>
      simp only [hparse] at h
      exact .inr ⟨schema, cause, rfl, hparse, (Except.error.inj h).symm⟩

/-- The first field that does not become a member is the one that its record fails for. -/
theorem ofFields_eq_error [Text.Repertoire] {derive : TypeExpr → Except Underivable Schema}
    {fields : List RecordField} {u : Underivable} (h : ofFields derive fields = .error u) :
    ∃ before f after, fields = before ++ f :: after ∧
      (∀ g ∈ before, ∃ member, ofField derive g = .ok member) ∧ ofField derive f = .error u := by
  induction fields with
  | nil => cases h
  | cons field rest ih =>
    rcases Outcome.bind_eq_error h with hfirst | ⟨member, hmember, h⟩
    · exact ⟨[], field, rest, rfl, List.forall_mem_nil _, hfirst⟩
    · rcases Outcome.bind_eq_error h with hrest | ⟨members, -, h⟩
      · obtain ⟨before, f, after, rfl, hbefore, herror⟩ := ih hrest
        exact ⟨field :: before, f, after, rfl,
          List.forall_mem_cons.mpr ⟨⟨member, hmember⟩, hbefore⟩, herror⟩
      · cases h

/-- What ends a derivation is that a record is inside itself. -/
def OfCycle (u : Underivable) : Prop :=
  ∃ f, u = .failure f ∧ f.report.code = .recursiveType

theorem OfCycle.of_within {u : Underivable} {step : Step}
    (h : OfCycle (u.within step)) : OfCycle u := by
  obtain ⟨f, heq, hcode⟩ := h
  cases u with
  | fault fault => cases heq
  | failure g =>
    obtain rfl := Underivable.failure.inj heq
    exact ⟨g, rfl, by rw [Failure.report_code] at hcode ⊢; exact hcode⟩

theorem unsupported_not_recursive (type : TypeExpr) : ¬ OfCycle (unsupported type) := by
  rintro ⟨f, heq, hcode⟩
  unfold unsupported at heq
  split at heq
  next => cases heq
  next =>
    obtain rfl := Underivable.failure.inj heq
    cases hcode

theorem unlisted_not_recursive (ref : RecordRef) (e : Reference.Error) :
    ¬ OfCycle (unlisted ref e) := by
  rintro ⟨f, heq, hcode⟩
  unfold unlisted at heq
  split at heq
  next =>
    obtain rfl := Underivable.failure.inj heq
    cases hcode
  next => cases heq

theorem tag_not_recursive [Text.Repertoire] {field : Field} {text : String} {cause : Cause}
    (h : Tag.parse field text = .error cause) : ¬ OfCycle cause.underivable := by
  rintro ⟨f, heq, hcode⟩
  obtain rfl := Underivable.failure.inj heq
  have htag := Tag.parse_category h
  rw [show cause.report.code = .recursiveType from hcode] at htag
  exact absurd htag (by decide)

/-- Only a record inside a type makes its derivation speak of a record inside itself. -/
theorem recursive_of_ofType {onRecord : RecordRef → Except Underivable Schema} {type : TypeExpr}
    {u : Underivable} (h : ofType onRecord type = .error u) (hcycle : OfCycle u) :
    ∃ ref, registry.Within (.record ref) type ∧ onRecord ref = .error u := by
  fun_induction ofType onRecord type with
  | case1 s => cases h
  | case2 form => cases h
  | case3 form element ih =>
    cases hinner : ofType onRecord element with
    | ok schema => rw [hinner] at h; cases h
    | error reason =>
      rw [hinner] at h
      obtain rfl := Except.error.inj h
      obtain ⟨ref, hwithin, hrecord⟩ := ih hinner
      exact ⟨ref, hwithin.tail (.element form element), hrecord⟩
  | case4 form arguments => cases h
  | case5 ref => exact ⟨ref, .refl, h⟩
  | case6 base extras ih =>
    obtain ⟨ref, hwithin, hrecord⟩ := ih h
    exact ⟨ref, hwithin.tail (.base base extras), hrecord⟩
  | case7 type =>
    obtain rfl := Except.error.inj h
    exact absurd hcycle (unsupported_not_recursive type)

/-- Below records that a record is inside of, its derivation speaks of a record inside itself only
if there is one inside it. -/
theorem recursive_of_ofRecord [Text.Repertoire] {seen : List RecordRef} {ref : RecordRef}
    {u : Underivable}
    (hseen : ∀ r ∈ seen, Relation.TransGen registry.Inner (.record ref) (.record r))
    (h : ofRecord registry seen ref = .error u) (hcycle : OfCycle u) :
    ∃ r, registry.Within (.record r) (.record ref) ∧ registry.Recursive r := by
  fun_induction ofRecord registry seen ref generalizing u with
  | case1 seen ref hmem => exact ⟨ref, .refl, hseen ref hmem⟩
  | case2 seen ref =>
    obtain rfl := Except.error.inj h
    exact absurd hcycle (unsupported_not_recursive _)
  | case3 seen ref _ c _ e =>
    obtain rfl := Except.error.inj h
    exact absurd hcycle (unlisted_not_recursive ref e)
  | case4 seen ref _ c hfind fields hfields ih =>
    rcases Outcome.bind_eq_error h with hmembers | ⟨members, -, h⟩
    · obtain ⟨before, f, after, rfl, -, hfield⟩ := ofFields_eq_error hmembers
      have hinner : registry.Inner f.hint (.record ref) :=
        .hint hfind hfields List.mem_append_cons_self
      rcases ofField_eq_error hfield with ⟨reason, hreason, rfl⟩ | ⟨_, cause, -, hparse, rfl⟩
      · have hcycle := hcycle.of_within
        obtain ⟨inner, hwithin, hrecord⟩ : ∃ inner, registry.Within (.record inner) f.hint ∧ _ :=
          recursive_of_ofType hreason hcycle
        have hstep : Relation.TransGen registry.Inner (.record inner) (.record ref) :=
          .tail' hwithin hinner
        have hbelow : ∀ r ∈ ref :: seen,
            Relation.TransGen registry.Inner (.record inner) (.record r) := by
          intro r hr
          rcases List.mem_cons.mp hr with rfl | hr
          · exact hstep
          · exact hstep.trans (hseen r hr)
        obtain ⟨r, hr, hrecursive⟩ := ih inner hbelow hrecord hcycle
        exact ⟨r, hr.trans hstep.to_reflTransGen, hrecursive⟩
      · exact absurd hcycle (tag_not_recursive hparse)
    · cases h

end Derivation

namespace Registry

/-! ## Types -/

theorem derive_of_shown [Text.Repertoire] (registry : Registry) {type : TypeExpr}
    (h : type.unset? = none) :
    registry.derive type = Derivation.ofType (Derivation.ofRecord registry []) type := by
  rw [derive, h]
  rcases Derivation.ofType (Derivation.ofRecord registry []) type with (f | fault) | schema <;> rfl

theorem derive_eq_ok_iff [Text.Repertoire] {registry : Registry} {type : TypeExpr}
    {schema : Schema} :
    registry.derive type = .ok schema ↔
      Derivation.ofType (Derivation.ofRecord registry []) type = .ok schema ∧
        type.unset? = none := by
  unfold derive
  rcases Derivation.ofType (Derivation.ofRecord registry []) type with ((f | fault) | found) <;>
    cases type.unset? <;> simp

theorem derive_eq_failure_iff [Text.Repertoire] {registry : Registry} {type : TypeExpr}
    {f : Failure} :
    registry.derive type = .error (.failure f) ↔
      Derivation.ofType (Derivation.ofRecord registry []) type = .error (.failure f) ∧
        type.unset? = none := by
  unfold derive
  rcases Derivation.ofType (Derivation.ofRecord registry []) type with ((g | fault) | found) <;>
    cases type.unset? <;> simp

theorem derive_eq_failure [Text.Repertoire] {registry : Registry} {type : TypeExpr} {f : Failure}
    (h : registry.derive type = .error (.failure f)) :
    Derivation.ofType (Derivation.ofRecord registry []) type = .error (.failure f) :=
  (derive_eq_failure_iff.mp h).1

/-- A derivable type that is inside all the records seen has a schema below them. -/
theorem Derivable.exists_ofType_below [Text.Repertoire] {registry : Registry}
    {seen : List RecordRef} {type : TypeExpr} (h : registry.Derivable type)
    (hseen : ∀ r ∈ seen, Relation.TransGen registry.Inner type (.record r)) :
    ∃ schema, Derivation.ofType (Derivation.ofRecord registry seen) type = .ok schema :=
  Derivation.exists_ofType h.formed fun _ hwithin =>
    Derivation.exists_ofRecord (h.within hwithin) fun r hr => .trans_right hwithin (hseen r hr)

theorem Derivable.exists_ofType [Text.Repertoire] {registry : Registry} {type : TypeExpr}
    (h : registry.Derivable type) :
    ∃ schema, Derivation.ofType (Derivation.ofRecord registry []) type = .ok schema :=
  h.exists_ofType_below (List.forall_mem_nil _)

/-- What a type is described by is what is derived for it, below records that it is inside of. -/
theorem Describes.ofType_below [Text.Repertoire] {registry : Registry} {seen : List RecordRef}
    {type : TypeExpr} {schema : Schema} (h : registry.Describes type schema)
    (hseen : ∀ r ∈ seen, Relation.TransGen registry.Inner type (.record r)) :
    Derivation.ofType (Derivation.ofRecord registry seen) type = .ok schema := by
  obtain ⟨found, hfound⟩ := h.derivable.exists_ofType_below hseen
  have hdescribes : registry.Describes type found :=
    Derivation.describes_of_ofType (fun _ _ => Derivation.describes_of_ofRecord) hfound
  rw [hfound, hdescribes.unique h]

theorem Describes.ofType_eq [Text.Repertoire] {registry : Registry} {type : TypeExpr}
    {schema : Schema} (h : registry.Describes type schema) :
    Derivation.ofType (Derivation.ofRecord registry []) type = .ok schema :=
  h.ofType_below (List.forall_mem_nil _)

/-- A type has a schema exactly if it is derivable and can be shown.  One that is derivable and
cannot be shown ends its derivation with the fault of that.  And a derivation speaks of a record
inside itself only if there is one inside the type. -/
theorem derives_iff [Text.Repertoire] (registry : Registry) (type : TypeExpr) :
    ((∃ schema, registry.derive type = .ok schema) ↔
        registry.Derivable type ∧ type.unset? = none) ∧
      (∀ u, registry.Derivable type → type.unset? = some u →
        registry.derive type = .error (.fault (.unset u))) ∧
      ∀ f, registry.derive type = .error (.failure f) → f.report.code = .recursiveType →
        ∃ ref, registry.Within (.record ref) type ∧ registry.Recursive ref := by
  refine ⟨⟨?_, ?_⟩, ?_, ?_⟩
  · rintro ⟨schema, hderive⟩
    exact ⟨(describes_of_derive hderive).derivable, (derive_eq_ok_iff.mp hderive).2⟩
  · rintro ⟨hderivable, hshown⟩
    obtain ⟨schema, hschema⟩ := hderivable.exists_ofType
    exact ⟨schema, derive_eq_ok_iff.mpr ⟨hschema, hshown⟩⟩
  · intro u hderivable hunset
    obtain ⟨schema, hschema⟩ := hderivable.exists_ofType
    rw [derive, hschema, hunset]
  · intro f hderive hcode
    have hcycle : Derivation.OfCycle (.failure f) := ⟨f, rfl, hcode⟩
    obtain ⟨ref, hwithin, hrecord⟩ : ∃ ref, registry.Within (.record ref) type ∧ _ :=
      Derivation.recursive_of_ofType (derive_eq_failure hderive) hcycle
    obtain ⟨r, hr, hrecursive⟩ :=
      Derivation.recursive_of_ofRecord (List.forall_mem_nil _) hrecord hcycle
    exact ⟨r, hr.trans hwithin, hrecursive⟩

def stopRef : RecordRef := ⟨2, .data, recordModule, "Stop", false⟩

def legRef : RecordRef := ⟨3, .data, recordModule, "Leg", false⟩

def stopDecl : RecordDecl :=
  ⟨"Stop", .data, [⟨"Name", .scalar .str, none, "required:\"true\"", true, false⟩], [], false⟩

def legDecl : RecordDecl :=
  ⟨"Leg", .data, [⟨"From", .record stopRef, none, "", true, false⟩,
    ⟨"Via", .array .list (.record stopRef), none, "", true, false⟩,
    ⟨"To", .record stopRef, none, "", true, false⟩], [], false⟩

def stopClass : RecordClass :=
  ⟨stopRef, [stopRef, .root], stopDecl.fields, some stopDecl.fields, []⟩

def legClass : RecordClass :=
  ⟨legRef, [legRef, .root], legDecl.fields, some legDecl.fields, []⟩

def legs : Registry := ⟨initial.classes ++ [stopClass, legClass]⟩

theorem defineAll_legs : initial.defineAll [stopDecl, legDecl] = .ok legs := by
  have hstop : initial.define stopDecl = .ok ⟨initial.classes ++ [stopClass]⟩ :=
    define_data rfl rfl (by decide +kernel)
  have hleg : (⟨initial.classes ++ [stopClass]⟩ : Registry).define legDecl = .ok legs :=
    define_data rfl rfl (by decide +kernel)
  have hdefined : [stopDecl, legDecl].foldlM define initial = .ok legs := by
    rw [Outcome.foldlM_cons_of_ok hstop, Outcome.foldlM_cons_of_ok hleg]
    rfl
  have hsettled : legs.settleFrom initial.classes.length = .ok legs := rfl
  exact defineAll_of_settled hdefined hsettled

/-- A record that is inside another one along several ways is not inside itself. -/
theorem derives_iff_legs :
    initial.defineAll [stopDecl, legDecl] = .ok legs ∧ legs.Derivable (.record legRef) ∧
      ¬ legs.Recursive stopRef := by
  have hsome : (legs.derive (.record legRef)).isOk = true := by decide +kernel
  obtain ⟨hiff, -, -⟩ := derives_iff legs (.record legRef)
  have hderivable : legs.Derivable (.record legRef) :=
    (hiff.mp (Outcome.exists_of_isOk hsome)).1
  have hfind : legs.find? legRef = some legClass := rfl
  have hfields : legs.fields legClass = .ok _ := rfl
  refine ⟨defineAll_legs, hderivable, hderivable.acyclic stopRef ?_⟩
  exact .single (.hint hfind hfields List.mem_cons_self)

def markRef : RecordRef := ⟨2, .data, recordModule, "Mark", false⟩

def markDecl : RecordDecl :=
  ⟨"Mark", .data, [⟨"Note", .scalar .str, none, "", false, false⟩], [], false⟩

def markClass : RecordClass :=
  ⟨markRef, [markRef, .root], markDecl.fields, some markDecl.fields, []⟩

def marks : Registry := ⟨initial.classes ++ [markClass]⟩

/-- An integer type with a mark as an extra is derivable and has no schema: the field of the mark
that takes no part in loading is not set, so that the type cannot be shown. -/
theorem marked_not_derived :
    initial.defineAll [markDecl] = .ok marks ∧
      marks.instantiate markClass [] = .ok (.record markRef [("Note", none)]) ∧
      marks.Derivable (.annotated (.scalar .int) [.value (.record markRef [("Note", none)])]) ∧
      marks.derive (.annotated (.scalar .int) [.value (.record markRef [("Note", none)])]) =
        .error (.fault (.unset ⟨"Mark", "Note"⟩)) := by
  have hdefine : initial.define markDecl = .ok marks :=
    define_data rfl rfl (by decide +kernel)
  exact ⟨defineAll_single hdefine rfl, rfl, (Describes.annotated _ (.scalar .int)).derivable, rfl⟩

end Registry
end Schematic
