import Schematic.Proofs.Loading.Soundness
import Schematic.Proofs.Validation.Revision

/-!
Loading of revised values.  A record takes the values of its members from an object, and the default
of a member counts as its value where there is none; a change of entries that keeps these values
leaves what is loaded as it was, to the last event.

A mapping is another matter, for it takes all entries as they are.  The schema of a type asks no
members of what is loaded into a mapping, as long as every field of a record is loaded by the schema
that was derived for it.
-/

namespace Schematic

namespace Schema

/-- A change that leaves the values of the declared members as they are, defaults included. -/
def KeepsValues (change : EntryChange) : Prop :=
  ∀ fields entries, (fields.map Prod.fst).Nodup → ∀ p ∈ fields,
    Field.valueIn p.2 p.1 (change fields entries) = Field.valueIn p.2 p.1 entries

variable {change : EntryChange}

theorem KeepsMembers.keepsValues (h : KeepsMembers change) : KeepsValues change := by
  intro fields entries _ p hp
  rw [Field.valueIn, Field.valueIn, h fields entries p hp]

/-- Writing in a default gives its member the value that it had before. -/
theorem withDefaults_keepsValues : KeepsValues withDefaults := by
  intro fields entries hnames p hp
  rw [Field.valueIn, Field.valueIn, lookup_withDefaults hnames hp]
  cases hnull : (Value.lookup p.1 entries).isNull with
  | true =>
    rw [if_pos rfl]
    exact ite_self p.2.default
  | false => rw [if_neg Bool.false_ne_true, hnull, if_neg Bool.false_ne_true]

end Schema

/-- Nothing that is declared to have members is loaded into a mapping. -/
inductive Registry.Aligned (registry : Registry) : Schema → TypeExpr → Prop
  | intro {schema : Schema} {type : TypeExpr}
      (hmapping : schema.kind = .object → schema.fields ≠ [] →
        ∀ form arguments, type.base ≠ .mapping form arguments)
      (hmember : ∀ ref c fields f member, type.base = .record ref → registry.find? ref = some c →
        registry.fields c = .ok fields → f ∈ fields →
          Field.find? (memberName f.name) schema.fields = some member →
            Aligned registry member.schema f.hint)
      (helement : ∀ element, schema.elements = some element →
        Aligned registry element (Loading.elementType type.base)) :
      Aligned registry schema type

namespace Registry

variable {registry : Registry}

theorem Aligned.describe {schema : Schema} {type : TypeExpr} (h : registry.Aligned schema type)
    (description : String) : registry.Aligned { schema with description } type := by
  cases h with
  | intro hmapping hmember helement => exact .intro hmapping hmember helement

theorem Aligned.annotated {schema : Schema} {base : TypeExpr} (h : registry.Aligned schema base)
    (extras : List Extra) : registry.Aligned schema (.annotated base extras) := by
  cases h with
  | intro hmapping hmember helement => exact .intro hmapping hmember helement

theorem aligned_ofKind {kind : Kind} (type : TypeExpr) :
    registry.Aligned (.ofKind kind) type := by
  refine .intro (fun _ hfields => absurd rfl hfields) ?_ nofun
  intro _ _ _ _ _ _ _ _ _ hmember
  cases hmember

/-- A type and its schema go together if every field of a record has a member of its own. -/
theorem Describes.aligned [Text.Repertoire] {type : TypeExpr} {schema : Schema}
    (h : registry.Describes type schema) (hdistinct : registry.DistinctMembers type) :
    registry.Aligned schema type := by
  induction h with
  | scalar s => exact aligned_ofKind _
  | openArray form => exact aligned_ofKind _
  | array _ ih =>
    refine .intro (fun hkind => nomatch hkind) ?_ ?_
    · intro _ _ _ _ _ hbase
      cases hbase
    · intro element helement
      obtain rfl := Option.some.inj helement
      exact ih (hdistinct.inner (.element _ _))
  | mapping form arguments => exact aligned_ofKind _
  | annotated extras _ ih => exact (ih (hdistinct.inner (.base _ extras))).annotated extras
  | @record ref c fields schemaOf memberOf hfind hfields hhints htags ih =>
    have hrecord : registry.DescribedRecord ref c fields schemaOf memberOf :=
      ⟨hfind, hfields, hhints, htags, hdistinct _ _ _ .refl hfind hfields⟩
    refine .intro (fun _ _ _ _ hbase => nomatch hbase) ?_ nofun
    intro ref' c' fields' f member hbase hfind' hfields' hf hmember
    obtain rfl := TypeExpr.record.inj hbase
    obtain ⟨rfl, rfl⟩ := listed_unique hfind hfields hfind' hfields'
    obtain rfl := Option.some.inj ((hrecord.find?_member hf).symm.trans hmember)
    rw [hrecord.shape hf]
    exact (ih f hf (hdistinct.inner (.hint hfind hfields hf))).describe _

end Registry

/-! ## Loading by other entries -/

theorem Noted.of_ok_bind {α β : Type} (a : α) (f : α → Noted β) : (Noted.of (.ok a) >>= f) = f a :=
  rfl

theorem Noted.forEach_map {α β γ : Type} (f : β → Noted γ) (g : α → β) (as : List α) :
    Noted.forEach f (as.map g) = Noted.forEach (fun a => f (g a)) as := by
  induction as with
  | nil => rfl
  | cons a rest ih => rw [List.map_cons, forEach, forEach, ih]

namespace Loading

variable {registry : Registry} {members : List (String × Member)}
  {entries entries' : List (Value × Value)}

/-- The values for a record depend on the values of members, and on nothing else of the entries. -/
theorem memberValues_congr {fields : List RecordField}
    (h : ∀ f ∈ fields, ∀ member, Member.find? (memberName f.name) members = some member →
      (member.valueIn (memberName f.name) entries).isNull =
          (member.valueIn (memberName f.name) entries').isNull ∧
        member.load (member.valueIn (memberName f.name) entries) f.hint =
          member.load (member.valueIn (memberName f.name) entries') f.hint) :
    memberValues members entries fields = memberValues members entries' fields := by
  induction fields with
  | nil => rfl
  | cons f rest ih =>
    obtain ⟨hfirst, hrest⟩ := List.forall_mem_cons.mp h
    rw [memberValues, memberValues, ih hrest]
    cases hmember : Member.find? (memberName f.name) members with
    | none => rfl
    | some member =>
      obtain ⟨hnull, hload⟩ := hfirst member hmember
      simp only [hnull, hload]

theorem object_congr {value value' : Value} {type : TypeExpr}
    (hentries : value.entries? = some entries) (hentries' : value'.entries? = some entries')
    (hmapping : ∀ form arguments, type ≠ .mapping form arguments)
    (hvalues : ∀ ref c fields, type = .record ref → registry.find? ref = some c →
      registry.fields c = .ok fields →
        memberValues members entries fields = memberValues members entries' fields) :
    object registry members value type = object registry members value' type := by
  unfold object
  rw [Schema.entriesOf_eq hentries, Schema.entriesOf_eq hentries', Noted.of_ok_bind,
    Noted.of_ok_bind]
  cases type with
  | mapping form arguments => exact absurd rfl (hmapping form arguments)
  | record ref =>
    cases hfind : registry.find? ref with
    | none => simp only [hfind]
    | some c =>
      cases hfields : registry.fields c with
      | error e =>
        simp only [hfind, fieldsOf, hfields]
        rfl
      | ok fields =>
        have hsame := hvalues ref c fields rfl hfind hfields
        simp only [hfind, fieldsOf, hfields]
        show (memberValues members entries fields >>= fun _ => _) = _
        rw [hsame]
        rfl
  | _ => rfl

end Loading

namespace Schema

variable {registry : Registry} {change : EntryChange} {schema : Schema} {type : TypeExpr}

theorem valueIn_reviseEntries {fields : List (String × Field)}
    (hnames : (fields.map Prod.fst).Nodup) {p : String × Field} (hp : p ∈ fields)
    (entries : List (Value × Value)) :
    Field.valueIn p.2 p.1 (reviseEntries change fields entries) =
      if (Value.lookup p.1 entries).isNull then p.2.default
      else p.2.schema.revise change (Value.lookup p.1 entries) := by
  rw [Field.valueIn, lookup_reviseEntries hnames hp, isNull_revise]

/-- The members of a record are loaded from revised entries as from the entries, if revised values
are loaded as the values are. -/
theorem memberValues_revise (hkeeps : KeepsValues change) (hnames : schema.DistinctNames)
    {fields : List RecordField}
    (hload : ∀ f ∈ fields, ∀ field, Field.find? (memberName f.name) schema.fields = some field →
      ∀ value, field.schema.load registry (field.schema.revise change value) f.hint =
        field.schema.load registry value f.hint)
    (entries : List (Value × Value)) :
    Loading.memberValues (loadMembers registry schema.fields)
        (change schema.fields (reviseEntries change schema.fields entries)) fields =
      Loading.memberValues (loadMembers registry schema.fields) entries fields := by
  refine Loading.memberValues_congr fun f hf member hfound => ?_
  rw [find?_loadMembers] at hfound
  obtain ⟨field, hfield, rfl⟩ := Option.map_eq_some_iff.mp hfound
  have hp := find?_mem hfield
  have hvalue : Field.valueIn field (memberName f.name)
      (change schema.fields (reviseEntries change schema.fields entries)) =
        if (Value.lookup (memberName f.name) entries).isNull then field.default
        else field.schema.revise change (Value.lookup (memberName f.name) entries) :=
    (hkeeps schema.fields _ hnames.nodup _ hp).trans
      (valueIn_reviseEntries hnames.nodup hp entries)
  rw [loadMember_eq]
  show (Field.valueIn field _ _).isNull = (Field.valueIn field _ entries).isNull ∧
    field.schema.load registry (Field.valueIn field _ _) f.hint =
      field.schema.load registry (Field.valueIn field _ entries) f.hint
  rw [hvalue, Field.valueIn]
  -- A default is not revised: it is the same value on both sides.
  cases (Value.lookup (memberName f.name) entries).isNull with
  | true => exact ⟨rfl, rfl⟩
  | false => exact ⟨isNull_revise change field.schema _, hload f hf field hfield _⟩

theorem loadElements_map {element : Schema} {f : Value → Value}
    (h : ∀ item, element.load registry (f item) type = element.load registry item type)
    (items : List Value) :
    loadElements registry (some element) (items.map f) type =
      loadElements registry (some element) items type := by
  show Noted.forEach (fun item => element.load registry item type) (items.map f) >>=
      (fun _ => _) =
    Noted.forEach (fun item => element.load registry item type) items >>= fun _ => _
  rw [Noted.forEach_map]
  simp only [h]

theorem load_revise (hkeeps : KeepsValues change) (hnames : schema.DistinctNames)
    (haligned : registry.Aligned schema type) (value : Value) :
    schema.load registry (schema.revise change value) type = schema.load registry value type := by
  induction haligned generalizing value with
  | @intro schema type hmapping hmember helement ihmember ihelement =>
    cases schema.kind.shape value with
    | other hholds => rw [revise_of_not_holds hholds]
    | scalar hobject harray => rw [revise_scalar hobject harray]
    | @object entries hkind hentries =>
      by_cases hopen : schema.fields = []
      · rw [revise_open hkind hopen]
      rw [revise_object hkind hopen, load_object hkind, load_object hkind]
      refine Loading.object_congr (Value.entries?_mapEntries hentries) hentries
        (hmapping hkind hopen) fun ref c fields hbase hfind hfields => ?_
      refine memberValues_revise hkeeps hnames (fun f hf field hfield => ?_) entries
      exact ihmember ref c fields f field hbase hfind hfields hf hfield
        (hnames.field (find?_mem hfield))
    | @array items hkind hitems =>
      rw [revise_array hkind, load_array hkind hitems]
      cases helements : schema.elements with
      | none => exact (load_array hkind hitems).trans (by rw [helements])
      | some element =>
        have hitems' : (reviseElements change (some element) value).items? =
            some (items.map fun item => element.revise change item) :=
          Value.items?_mapItems hitems
        rw [load_array hkind hitems', helements]
        exact loadElements_map (ihelement element helements (hnames.element helements)) items

end Schema
end Schematic
