import Schematic.Proofs.Derivation.Existence

/-!
The members of a derived record, one by one.  Each field of a record becomes a member by itself,
from its type and its tag alone, wherever the record is met.  The members are then put together by
name, and the names of two fields can have one translation: the schema has a place for the first of
them and keeps the last, so that all fields have a member of their own exactly if no two names are
translated alike.
-/

namespace Schematic
namespace Registry

variable {registry : Registry}

/-- The member that a field becomes by itself: the translation of its name, and the schema derived
for its type with its tag applied. -/
structure Becomes [Text.Repertoire] (registry : Registry) (f : RecordField)
    (member : String × Field) : Prop where
  name : member.1 = memberName f.name
  field : ∃ schema, Derivation.ofType (Derivation.ofRecord registry []) f.hint = .ok schema ∧
    Tag.parse schema.toField f.tag = .ok member.2

theorem becomes_names [Text.Repertoire] {fields : List RecordField}
    {members : List (String × Field)} (h : List.Forall₂ registry.Becomes fields members) :
    members.map Prod.fst = fields.map fun f => memberName f.name := by
  induction h with
  | nil => rfl
  | cons hfirst _ ih => rw [List.map_cons, List.map_cons, hfirst.name, ih]

/-- The members of a schema derived for a record: what its fields become, put together. -/
theorem Describes.members [Text.Repertoire] {ref : RecordRef} {schema : Schema}
    (h : registry.Describes (.record ref) schema) :
    ∃ c fields members, registry.find? ref = some c ∧ registry.fields c = .ok fields ∧
      List.Forall₂ registry.Becomes fields members ∧
      schema = .objectOf (Derivation.collect members) := by
  cases h with
  | @record _ c fields schemaOf memberOf hfind hfields hhints htags =>
    have hbecome : List.Forall₂ registry.Becomes fields
        (fields.map fun f => (memberName f.name, memberOf f)) := by
      rw [List.forall₂_map_right_iff, List.forall₂_same]
      intro f hf
      exact ⟨rfl, schemaOf f, (hhints f hf).ofType_eq, htags f hf⟩
    exact ⟨c, fields, _, hfind, hfields, hbecome, rfl⟩

/-- A schema derived for a record names each translated name once, where it first comes up among the
fields, and has under it what the last of its fields becomes.  It has what each of the fields
becomes, in their order, if and only if no two of their names are translated alike. -/
theorem derived_members [Text.Repertoire] {ref : RecordRef} {schema : Schema}
    (h : registry.derive (.record ref) = .ok schema) :
    ∃ c fields members, registry.find? ref = some c ∧ registry.fields c = .ok fields ∧
      List.Forall₂ registry.Becomes fields members ∧
      schema.fields.map Prod.fst = (fields.map fun f => memberName f.name).eraseDups ∧
      (∀ before member after, members = before ++ member :: after →
        (∀ other ∈ after, member.1 ≠ other.1) → member ∈ schema.fields) ∧
      (schema.fields = members ↔ (fields.map fun f => memberName f.name).Nodup) := by
  obtain ⟨c, fields, members, hfind, hfields, hbecome, rfl⟩ := (describes_of_derive h).members
  have hnames := becomes_names hbecome
  refine ⟨c, fields, members, hfind, hfields, hbecome, ?_, ?_, ?_⟩
  · rw [← hnames]
    exact Value.names_putMembers List.nodup_nil
  · rintro before member after rfl hlast
    exact Value.last_mem_putMembers hlast
  · rw [← hnames]
    constructor
    · intro heq
      have hnodup : ((Derivation.collect members).map Prod.fst).Nodup :=
        Value.nodup_putMembers List.nodup_nil
      rwa [show Derivation.collect members = members from heq] at hnodup
    · exact Value.putMembers_nil_of_nodup

theorem derived_members_legs :
    ∃ schema, legs.derive (.record legRef) = .ok schema ∧
      schema.fields.map Prod.fst = ["from", "via", "to"] := by
  have hsome : (legs.derive (.record legRef)).isOk = true := by decide +kernel
  obtain ⟨schema, hderive⟩ := Outcome.exists_of_isOk hsome
  obtain ⟨c, fields, members, hfind, hfields, -, hnames, -, -⟩ := derived_members hderive
  have hlegs : legs.find? legRef = some legClass := rfl
  obtain rfl := Option.some.inj (hlegs.symm.trans hfind)
  have hlisted : legs.fields legClass = .ok [⟨"From", .record stopRef, "", none⟩,
    ⟨"Via", .array .list (.record stopRef), "", none⟩, ⟨"To", .record stopRef, "", none⟩] := rfl
  obtain rfl := Except.ok.inj (hlisted.symm.trans hfields)
  refine ⟨schema, hderive, ?_⟩
  rw [hnames]
  decide +kernel

def badgeRef : RecordRef := ⟨2, .data, recordModule, "Badge", false⟩

def badgeDecl : RecordDecl :=
  ⟨"Badge", .data, [⟨"UserID", .scalar .int, none, "", true, false⟩,
    ⟨"user_id", .scalar .str, none, "", true, false⟩], [], false⟩

def badgeClass : RecordClass :=
  ⟨badgeRef, [badgeRef, .root], badgeDecl.fields, some badgeDecl.fields, []⟩

def badges : Registry := ⟨initial.classes ++ [badgeClass]⟩

/-- Of the two fields of a badge, whose names are translated alike, the schema has the second one
only. -/
theorem badge_member_lost :
    initial.defineAll [badgeDecl] = .ok badges ∧
      badges.fields badgeClass = .ok [⟨"UserID", .scalar .int, "", none⟩,
        ⟨"user_id", .scalar .str, "", none⟩] ∧
      ∃ schema, badges.derive (.record badgeRef) = .ok schema ∧
        schema.fields.map (fun member => (member.1, member.2.schema.kind)) =
          [("user_id", .string)] := by
  have hdefine : initial.define badgeDecl = .ok badges :=
    define_data rfl rfl (by decide +kernel)
  refine ⟨defineAll_single hdefine rfl, rfl, ?_⟩
  have hrun : (badges.derive (.record badgeRef)).toOption.map (fun schema =>
      schema.fields.map fun member => (member.1, member.2.schema.kind)) =
        some [("user_id", .string)] := by
    decide +kernel
  cases hderive : badges.derive (.record badgeRef) with
  | error reason => rw [hderive] at hrun; cases hrun
  | ok schema =>
    rw [hderive] at hrun
    exact ⟨schema, rfl, Option.some.inj hrun⟩

end Registry
end Schematic
