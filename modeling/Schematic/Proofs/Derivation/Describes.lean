import Mathlib.Logic.Relation
import Schematic.Derivation
import Schematic.Proofs.Tag.Defaults
import Schematic.Proofs.Value.Members

/-!
Derivation as a relation between types and schemas.  The function that derives carries the records
on its way along, to stop where one of them comes up again; where it has a result, the list of
these records no longer matters, and the result is built by the rules of `Registry.Describes`.
Proofs about derived schemas go by induction on these rules.

The types inside a type are those of its elements and of the fields of its records.  Since a
schema is a finite tree, a type that has one is not inside itself.
-/

namespace Schematic

/-- A type has a schema, whatever the records around it. -/
inductive Registry.Describes [Text.Repertoire] (registry : Registry) : TypeExpr → Schema → Prop
  | scalar (s : Scalar) : Describes registry (.scalar s) (.ofKind s.kind)
  | openArray (form : ArrayForm) : Describes registry (.openArray form) (.ofKind .array)
  | array {form : ArrayForm} {element : TypeExpr} {schema : Schema}
      (helement : Describes registry element schema) :
      Describes registry (.array form element) (.arrayOf schema)
  | mapping (form : MappingForm) (arguments : List TypeExpr) :
      Describes registry (.mapping form arguments) (.ofKind .object)
  | annotated {base : TypeExpr} {schema : Schema} (extras : List Extra)
      (hbase : Describes registry base schema) : Describes registry (.annotated base extras) schema
  | record {ref : RecordRef} {c : RecordClass} {fields : List RecordField}
      {schemaOf : RecordField → Schema} {memberOf : RecordField → Field}
      (hfind : registry.find? ref = some c) (hfields : registry.fields c = .ok fields)
      (hhints : ∀ f ∈ fields, Describes registry f.hint (schemaOf f))
      (htags : ∀ f ∈ fields, Tag.parse (schemaOf f).toField f.tag = .ok (memberOf f)) :
      Describes registry (.record ref)
        (.objectOf (Derivation.collect (fields.map fun f => (memberName f.name, memberOf f))))

namespace Derivation

/-! ## Derived schemas -/

theorem ofField_eq_ok [Text.Repertoire] {derive : TypeExpr → Except Underivable Schema}
    {field : RecordField} {member : String × Field} (h : ofField derive field = .ok member) :
    ∃ schema, derive field.hint = .ok schema ∧
      ∃ f, Tag.parse schema.toField field.tag = .ok f ∧ member = (memberName field.name, f) := by
  unfold ofField at h
  cases hschema : derive field.hint with
  | error reason => rw [hschema] at h; cases h
  | ok schema =>
    rw [hschema] at h
    cases hparse : Tag.parse schema.toField field.tag with
    | error cause => simp only [hparse] at h; cases h
    | ok f =>
      simp only [hparse] at h
      exact ⟨schema, rfl, f, hparse, (Except.ok.inj h).symm⟩

/-- Every field becomes a member, from the schema of its type and its tag. -/
theorem ofFields_eq_ok [Text.Repertoire] {derive : TypeExpr → Except Underivable Schema}
    {fields : List RecordField} {members : List (String × Field)}
    (h : ofFields derive fields = .ok members) :
    ∃ (schemaOf : RecordField → Schema) (memberOf : RecordField → Field),
      (∀ f ∈ fields, derive f.hint = .ok (schemaOf f)) ∧
      (∀ f ∈ fields, Tag.parse (schemaOf f).toField f.tag = .ok (memberOf f)) ∧
      members = fields.map fun f => (memberName f.name, memberOf f) := by
  let schemaOf (f : RecordField) : Schema := (derive f.hint).toOption.getD default
  let memberOf (f : RecordField) : Field :=
    (Tag.parse (schemaOf f).toField f.tag).toOption.getD (schemaOf f).toField
  have hmember : ∀ f member, ofField derive f = .ok member → derive f.hint = .ok (schemaOf f) ∧
      Tag.parse (schemaOf f).toField f.tag = .ok (memberOf f) ∧
      member = (memberName f.name, memberOf f) := by
    intro f member hf
    obtain ⟨schema, hschema, found, hparse, rfl⟩ := ofField_eq_ok hf
    have heq : schemaOf f = schema := by
      show (derive f.hint).toOption.getD default = schema
      rw [hschema]
      rfl
    have hfound : memberOf f = found := by
      show (Tag.parse (schemaOf f).toField f.tag).toOption.getD _ = found
      rw [heq, hparse]
      rfl
    rw [hfound, heq]
    exact ⟨hschema, hparse, rfl⟩
  refine ⟨schemaOf, memberOf, ?_⟩
  induction fields generalizing members with
  | nil => exact ⟨nofun, nofun, (Except.ok.inj h).symm⟩
  | cons field rest ih =>
    obtain ⟨member, hfirst, h⟩ := Outcome.bind_eq_ok h
    obtain ⟨others, hothers, h⟩ := Outcome.bind_eq_ok h
    obtain rfl := Except.ok.inj h
    obtain ⟨hderive, hparse, rfl⟩ := hmember field member hfirst
    obtain ⟨hderives, hparses, rfl⟩ := ih hothers
    exact ⟨List.forall_mem_cons.mpr ⟨hderive, hderives⟩,
      List.forall_mem_cons.mpr ⟨hparse, hparses⟩, rfl⟩

theorem describes_of_ofType [Text.Repertoire] {registry : Registry}
    {onRecord : RecordRef → Except Underivable Schema}
    (hrecord : ∀ ref schema, onRecord ref = .ok schema →
      registry.Describes (.record ref) schema)
    {type : TypeExpr} {schema : Schema} (h : ofType onRecord type = .ok schema) :
    registry.Describes type schema := by
  fun_induction ofType onRecord type generalizing schema with
  | case1 s => exact Except.ok.inj h ▸ .scalar s
  | case2 form => exact Except.ok.inj h ▸ .openArray form
  | case3 form element ih =>
    obtain ⟨inner, hinner, rfl⟩ := Outcome.map_eq_ok h
    exact .array (ih hinner)
  | case4 form arguments => exact Except.ok.inj h ▸ .mapping form arguments
  | case5 ref => exact hrecord ref schema h
  | case6 base extras ih => exact .annotated extras (ih h)
  | case7 => cases h

/-- A record that is seen for the first time is derived from its fields. -/
theorem ofRecord_of_find [Text.Repertoire] {registry : Registry} {seen : List RecordRef}
    {ref : RecordRef} {c : RecordClass} (hseen : ref ∉ seen) (hfind : registry.find? ref = some c) :
    ofRecord registry seen ref =
      match registry.fields c with
      | .error e => .error (unlisted ref e)
      | .ok fields =>
        ofFields (ofType fun inner => ofRecord registry (ref :: seen) inner) fields >>=
          fun members => .ok (.objectOf (collect members)) := by
  rw [ofRecord, dif_neg hseen]
  split
  next hnone => rw [hfind] at hnone; cases hnone
  next c' hsome =>
    obtain rfl := Option.some.inj (hfind.symm.trans hsome)
    rfl

theorem ofRecord_eq [Text.Repertoire] {registry : Registry} {seen : List RecordRef}
    {ref : RecordRef} {c : RecordClass} {fields : List RecordField} (hseen : ref ∉ seen)
    (hfind : registry.find? ref = some c) (hfields : registry.fields c = .ok fields) :
    ofRecord registry seen ref =
      ofFields (ofType fun inner => ofRecord registry (ref :: seen) inner) fields >>= fun members =>
        .ok (.objectOf (collect members)) := by
  rw [ofRecord_of_find hseen hfind, hfields]

/-- The records that are seen do not matter for a derivation that succeeds. -/
theorem describes_of_ofRecord [Text.Repertoire] {registry : Registry} {seen : List RecordRef}
    {ref : RecordRef} {schema : Schema} (h : ofRecord registry seen ref = .ok schema) :
    registry.Describes (.record ref) schema := by
  fun_induction ofRecord registry seen ref generalizing schema with
  | case1 => cases h
  | case2 => cases h
  | case3 => cases h
  | case4 seen ref hseen c hfind fields hfields ih =>
    obtain ⟨members, hmembers, h⟩ := Outcome.bind_eq_ok h
    obtain rfl := Except.ok.inj h
    obtain ⟨schemaOf, memberOf, hderives, hparses, rfl⟩ := ofFields_eq_ok hmembers
    refine .record hfind hfields (fun f hf => ?_) hparses
    exact describes_of_ofType (fun inner schema => ih inner) (hderives f hf)

end Derivation

theorem Registry.describes_of_derive [Text.Repertoire] {registry : Registry} {type : TypeExpr}
    {schema : Schema} (h : registry.derive type = .ok schema) : registry.Describes type schema := by
  unfold derive at h
  split at h
  next => cases h
  next => cases h
  next hresult _ =>
    exact Derivation.describes_of_ofType (fun _ _ => Derivation.describes_of_ofRecord) h

namespace Registry

variable {registry : Registry}

/-! ## Types inside a type -/

/-- A type is inside another one, without a third between them. -/
inductive Inner (registry : Registry) : TypeExpr → TypeExpr → Prop
  | base (base : TypeExpr) (extras : List Extra) : Inner registry base (.annotated base extras)
  | element (form : ArrayForm) (element : TypeExpr) : Inner registry element (.array form element)
  | hint {ref : RecordRef} {c : RecordClass} {fields : List RecordField} {f : RecordField}
      (hfind : registry.find? ref = some c) (hfields : registry.fields c = .ok fields)
      (hmem : f ∈ fields) : Inner registry f.hint (.record ref)

/-- A type is another one, or inside it at any depth. -/
def Within (registry : Registry) : TypeExpr → TypeExpr → Prop :=
  Relation.ReflTransGen registry.Inner

/-- A reference leads to one record at most, and to one list of fields. -/
theorem listed_unique {ref : RecordRef} {c c' : RecordClass} {fields fields' : List RecordField}
    (hfind : registry.find? ref = some c) (hfields : registry.fields c = .ok fields)
    (hfind' : registry.find? ref = some c') (hfields' : registry.fields c' = .ok fields') :
    c = c' ∧ fields = fields' := by
  obtain rfl := Option.some.inj (hfind.symm.trans hfind')
  exact ⟨rfl, Except.ok.inj (hfields.symm.trans hfields')⟩

/-- The schema of a record is made of what the fields that it is known to have become. -/
theorem Describes.of_record [Text.Repertoire] {ref : RecordRef} {c : RecordClass}
    {fields : List RecordField} {schema : Schema} (h : registry.Describes (.record ref) schema)
    (hfind : registry.find? ref = some c) (hfields : registry.fields c = .ok fields) :
    ∃ (schemaOf : RecordField → Schema) (memberOf : RecordField → Field),
      (∀ f ∈ fields, registry.Describes f.hint (schemaOf f)) ∧
      (∀ f ∈ fields, Tag.parse (schemaOf f).toField f.tag = .ok (memberOf f)) ∧
      schema = .objectOf
        (Derivation.collect (fields.map fun f => (memberName f.name, memberOf f))) := by
  cases h with
  | record hfind' hfields' hhints htags =>
    obtain ⟨rfl, rfl⟩ := listed_unique hfind hfields hfind' hfields'
    exact ⟨_, _, hhints, htags, rfl⟩

theorem Inner.hint_of_mem {ref : RecordRef} {c : RecordClass} {fields : List RecordField}
    (hfind : registry.find? ref = some c) (hfields : registry.fields c = .ok fields)
    {inner : TypeExpr} (h : registry.Inner inner (.record ref)) :
    ∃ f ∈ fields, inner = f.hint := by
  cases h with
  | hint hfind' hfields' hmem =>
    obtain ⟨rfl, rfl⟩ := listed_unique hfind hfields hfind' hfields'
    exact ⟨_, hmem, rfl⟩

/-- No other record is inside a record whose fields are scalars. -/
theorem Within.eq_of_scalars {ref inner : RecordRef} {c : RecordClass}
    {fields : List RecordField} (hfind : registry.find? ref = some c)
    (hfields : registry.fields c = .ok fields) (hscalars : ∀ f ∈ fields, ∃ s, f.hint = .scalar s)
    (h : registry.Within (.record inner) (.record ref)) : inner = ref := by
  rcases Relation.ReflTransGen.cases_tail h with heq | ⟨between, hwithin, hinner⟩
  · exact (TypeExpr.record.inj heq).symm
  · obtain ⟨f, hf, rfl⟩ := hinner.hint_of_mem hfind hfields
    obtain ⟨s, hs⟩ := hscalars f hf
    rw [hs] at hwithin
    rcases Relation.ReflTransGen.cases_tail hwithin with heq | ⟨_, -, hinner⟩
    · cases heq
    · cases hinner

/-- A type with a schema can be taken apart only so far. -/
theorem Describes.acc [Text.Repertoire] {type : TypeExpr} {schema : Schema}
    (h : registry.Describes type schema) :
    Acc registry.Inner type := by
  induction h with
  | scalar | openArray | mapping => exact ⟨_, nofun⟩
  | array _ ih =>
    refine ⟨_, fun inner hinner => ?_⟩
    cases hinner with
    | element => exact ih
  | annotated _ _ ih =>
    refine ⟨_, fun inner hinner => ?_⟩
    cases hinner with
    | base => exact ih
  | record hfind hfields _ _ ih =>
    refine ⟨_, fun inner hinner => ?_⟩
    obtain ⟨f, hmem, rfl⟩ := hinner.hint_of_mem hfind hfields
    exact ih f hmem

/-- A type with a schema is not inside one of its parts. -/
theorem Describes.not_within [Text.Repertoire] {type inner : TypeExpr} {schema : Schema}
    (h : registry.Describes type schema) (hinner : registry.Inner inner type) :
    ¬ registry.Within type inner := by
  intro hwithin
  have hacc := h.acc.transGen
  have hcycle : Relation.TransGen registry.Inner type type :=
    Relation.TransGen.tail' hwithin hinner
  clear h hwithin hinner
  induction hacc with
  | intro type _ ih => exact ih type hcycle hcycle

theorem Describes.unique [Text.Repertoire] {type : TypeExpr} {schema schema' : Schema}
    (h : registry.Describes type schema) (h' : registry.Describes type schema') :
    schema = schema' := by
  induction h generalizing schema' with
  | scalar | openArray | mapping => cases h'; rfl
  | array _ ih => cases h' with | array helement => rw [ih helement]
  | annotated _ _ ih => cases h' with | annotated _ hbase => exact ih hbase
  | record hfind hfields _ htags ih =>
    obtain ⟨schemaOf', memberOf', hhints', htags', rfl⟩ := h'.of_record hfind hfields
    congr 2
    refine List.map_congr_left fun f hf => ?_
    have hmember := htags' f hf
    rw [← ih f hf (hhints' f hf), htags f hf] at hmember
    rw [Except.ok.inj hmember]

theorem Describes.of_within [Text.Repertoire] {type inner : TypeExpr} {schema : Schema}
    (h : registry.Describes type schema) (hwithin : registry.Within inner type) :
    ∃ schema, registry.Describes inner schema := by
  induction hwithin using Relation.ReflTransGen.head_induction_on with
  | refl => exact ⟨schema, h⟩
  | head hstep _ ih =>
    obtain ⟨outer, houter⟩ := ih
    cases hstep with
    | base => cases houter with | annotated _ hbase => exact ⟨_, hbase⟩
    | element => cases houter with | array helement => exact ⟨_, helement⟩
    | hint hfind hfields hmem =>
      obtain ⟨schemaOf, -, hhints, -, -⟩ := houter.of_record hfind hfields
      exact ⟨_, hhints _ hmem⟩

end Registry
end Schematic
