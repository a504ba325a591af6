import Schematic.Proofs.Schema.WellFormed
import Schematic.Proofs.Value.Entries

/-!
Revisions of a value along a schema.  At every object whose schema declares members, the entries are
changed, after the values of the declared members are revised themselves; the elements of an array
are revised by the schema of elements.  Nothing else is touched: no open object or array, and no
value that is not of the kind asked for.

Three changes of entries are of interest: only declared members that have a value are kept, or only
those declared members are dropped that are null, or the defaults of absent and null members are
written in.  A change is known by what is looked up under declared names afterwards, and
`lookup_reviseEntries` does the same for the revision of the values.
-/

namespace Schematic

namespace Value

/-- A dictionary or a view with other entries. -/
def mapEntries (f : List (Value × Value) → List (Value × Value)) : Value → Value
  | .dict entries => .dict (f entries)
  | .view entries => .view (f entries)
  | value => value

def mapItems (f : Value → Value) : Value → Value
  | .list items => .list (items.map f)
  | .tuple items => .tuple (items.map f)
  | value => value

variable {value : Value} {entries : List (Value × Value)} {items : List Value}

theorem mapEntries_of_none {f : List (Value × Value) → List (Value × Value)}
    (h : value.entries? = none) : value.mapEntries f = value := by
  cases value <;> first | rfl | cases h

theorem entries?_mapEntries {f : List (Value × Value) → List (Value × Value)}
    (h : value.entries? = some entries) : (value.mapEntries f).entries? = some (f entries) := by
  cases value <;> first | cases h; rfl | cases h

theorem isNull_mapEntries (f : List (Value × Value) → List (Value × Value)) (value : Value) :
    (value.mapEntries f).isNull = value.isNull := by
  cases value <;> rfl

theorem mapItems_of_none {f : Value → Value} (h : value.items? = none) :
    value.mapItems f = value := by
  cases value <;> first | rfl | cases h

theorem items?_mapItems {f : Value → Value} (h : value.items? = some items) :
    (value.mapItems f).items? = some (items.map f) := by
  cases value <;> first | cases h; rfl | cases h

theorem isNull_mapItems (f : Value → Value) (value : Value) :
    (value.mapItems f).isNull = value.isNull := by
  cases value <;> rfl

end Value

/-- A change of the entries of an object with the given declared members. -/
abbrev EntryChange := List (String × Field) → List (Value × Value) → List (Value × Value)

namespace Schema

/-! ## Revisions -/

mutual

/-- The value with the entries of all its objects changed. -/
def revise (change : EntryChange) : Schema → Value → Value
  | ⟨kind, _, fields, elements⟩, value =>
    match kind with
    | .object =>
      if fields.isEmpty then value
      else value.mapEntries fun entries =>
        change fields (entries.map fun e => (e.1, reviseUnder change fields e.1 e.2))
    | .array => reviseElements change elements value
    | _ => value
termination_by structural schema => schema

/-- The value under a key, revised if a member is declared for the key. -/
def reviseUnder (change : EntryChange) : List (String × Field) → Value → Value → Value
  | [], _, value => value
  | (name, field) :: rest, key, value =>
    if key.isText name then reviseMember change field value else reviseUnder change rest key value
termination_by structural fields => fields

def reviseMember (change : EntryChange) : Field → Value → Value
  | ⟨schema, _, _, _⟩, value => revise change schema value
termination_by structural field => field

def reviseElements (change : EntryChange) : Option Schema → Value → Value
  | none, value => value
  | some schema, value => value.mapItems fun item => revise change schema item
termination_by structural elements => elements

end

def reviseEntries (change : EntryChange) (fields : List (String × Field))
    (entries : List (Value × Value)) : List (Value × Value) :=
  entries.map fun e => (e.1, reviseUnder change fields e.1 e.2)

/-- At no node of the schema two declared members have one name. -/
inductive DistinctNames : Schema → Prop
  | intro {schema : Schema} (hnames : (schema.fields.map Prod.fst).Nodup)
      (hfields : ∀ p ∈ schema.fields, DistinctNames p.2.schema)
      (helements : ∀ element, schema.elements = some element → DistinctNames element) :
      DistinctNames schema

theorem DistinctNames.nodup {schema : Schema} (h : schema.DistinctNames) :
    (schema.fields.map Prod.fst).Nodup := by
  cases h with
  | intro hnames => exact hnames

theorem DistinctNames.field {schema : Schema} (h : schema.DistinctNames) {p : String × Field}
    (hp : p ∈ schema.fields) : p.2.schema.DistinctNames := by
  cases h with
  | intro _ hfields => exact hfields p hp

theorem DistinctNames.element {schema element : Schema} (h : schema.DistinctNames)
    (helement : schema.elements = some element) : element.DistinctNames := by
  cases h with
  | intro _ _ helements => exact helements element helement

theorem WellFormed.distinctNames {schema : Schema} (h : schema.WellFormed) :
    schema.DistinctNames := by
  induction h with
  | intro hnames _ _ _ _ _ ihfields ihelements => exact .intro hnames ihfields ihelements

theorem find?_of_mem {fields : List (String × Field)} (hnames : (fields.map Prod.fst).Nodup)
    {p : String × Field} (hp : p ∈ fields) : Field.find? p.1 fields = some p.2 := by
  show (fields.find? fun q => q.1 == p.1).map Prod.snd = some p.2
  rw [Value.find?_of_nodup hnames hp]
  rfl

section Revise

variable {change : EntryChange} {schema : Schema} {value : Value} {entries : List (Value × Value)}
  {items : List Value}

theorem reviseMember_eq (field : Field) (value : Value) :
    reviseMember change field value = field.schema.revise change value := by
  obtain ⟨schema, required, default, tags⟩ := field
  rfl

theorem reviseUnder_eq (fields : List (String × Field)) (name : String) (value : Value) :
    reviseUnder change fields (.str name) value =
      match Field.find? name fields with
      | some field => field.schema.revise change value
      | none => value := by
  induction fields with
  | nil => rfl
  | cons p rest ih =>
    obtain ⟨key, field⟩ := p
    by_cases hkey : key = name
    · simp [reviseUnder, Value.isText, Field.find?, hkey, reviseMember_eq]
    · have hname : ¬ name = key := fun h => hkey h.symm
      simpa [reviseUnder, Value.isText, Field.find?, hkey, hname] using ih

theorem revise_scalar (hobject : schema.kind ≠ .object) (harray : schema.kind ≠ .array) :
    schema.revise change value = value := by
  obtain ⟨kind, description, fields, elements⟩ := schema
  cases kind with
  | object => exact absurd rfl hobject
  | array => exact absurd rfl harray
  | _ => rfl

theorem revise_open (hkind : schema.kind = .object) (hopen : schema.fields = []) :
    schema.revise change value = value := by
  obtain ⟨kind, description, fields, elements⟩ := schema
  obtain rfl : kind = .object := hkind
  obtain rfl : fields = [] := hopen
  rfl

theorem revise_object (hkind : schema.kind = .object) (hdeclared : schema.fields ≠ []) :
    schema.revise change value =
      value.mapEntries fun entries =>
        change schema.fields (reviseEntries change schema.fields entries) := by
  obtain ⟨kind, description, fields, elements⟩ := schema
  obtain rfl : kind = .object := hkind
  have hempty : fields.isEmpty = false := by
    cases fields with
    | nil => exact absurd rfl hdeclared
    | cons => rfl
  show (if fields.isEmpty then value else _) = _
  rw [hempty]
  rfl

theorem revise_array (hkind : schema.kind = .array) :
    schema.revise change value = reviseElements change schema.elements value := by
  obtain ⟨kind, description, fields, elements⟩ := schema
  obtain rfl : kind = .array := hkind
  rfl

theorem isNull_revise (change : EntryChange) (schema : Schema) (value : Value) :
    (schema.revise change value).isNull = value.isNull := by
  by_cases hobject : schema.kind = .object
  · by_cases hopen : schema.fields = []
    · rw [revise_open hobject hopen]
    · rw [revise_object hobject hopen, Value.isNull_mapEntries]
  by_cases harray : schema.kind = .array
  · rw [revise_array harray]
    cases schema.elements with
    | none => rfl
    | some element => exact Value.isNull_mapItems _ value
  · rw [revise_scalar hobject harray]

theorem revise_null (change : EntryChange) (schema : Schema) :
    schema.revise change .null = .null :=
  Value.isNull_iff.mp (isNull_revise change schema .null)

theorem revise_of_not_holds (h : ¬ schema.kind.Holds value) :
    schema.revise change value = value := by
  by_cases hobject : schema.kind = .object
  · by_cases hopen : schema.fields = []
    · exact revise_open hobject hopen
    · rw [revise_object hobject hopen]
      cases hentries : value.entries? with
      | none => exact Value.mapEntries_of_none hentries
      | some entries => rw [hobject] at h; exact absurd (.object hentries) h
  by_cases harray : schema.kind = .array
  · rw [revise_array harray]
    cases schema.elements with
    | none => rfl
    | some element =>
      cases hitems : value.items? with
      | none => exact Value.mapItems_of_none hitems
      | some items => rw [harray] at h; exact absurd (.array hitems) h
  · exact revise_scalar hobject harray

/-- What a revised object has under a declared name, before its entries are changed. -/
theorem lookup_reviseEntries {fields : List (String × Field)}
    (hnames : (fields.map Prod.fst).Nodup) {p : String × Field} (hp : p ∈ fields)
    (entries : List (Value × Value)) :
    Value.lookup p.1 (reviseEntries change fields entries) =
      p.2.schema.revise change (Value.lookup p.1 entries) := by
  have hunder : ∀ value, reviseUnder change fields (.str p.1) value =
      p.2.schema.revise change value := by
    intro value
    rw [reviseUnder_eq, find?_of_mem hnames hp]
  have hnull : reviseUnder change fields (.str p.1) .null = .null := by
    rw [hunder, revise_null]
  rw [reviseEntries, Value.lookup_mapValues hnull, hunder]

end Revise

/-! ## Changes of entries -/

/-- The entries of declared members that have a value. -/
def declaredOnly : EntryChange := fun fields entries =>
  entries.filter fun e =>
    fields.any fun p => e.1.isText p.1 && !(Value.lookup p.1 entries).isNull

/-- The entries without declared members that are null. -/
def withoutNulls : EntryChange := fun fields entries =>
  entries.filter fun e =>
    !fields.any fun p => e.1.isText p.1 && (Value.lookup p.1 entries).isNull

/-- The entries with the default of every declared member that is absent or null and has one. -/
def withDefaults : EntryChange := fun fields entries =>
  fields.foldl (fun entries p =>
    if (Value.lookup p.1 entries).isNull && !p.2.default.isNull then
      Value.putEntry (.str p.1) p.2.default entries
    else entries) entries

/-- The value without undeclared members and without declared members that are null. -/
def strip (schema : Schema) (value : Value) : Value :=
  schema.revise declaredOnly value

def dropNulls (schema : Schema) (value : Value) : Value :=
  schema.revise withoutNulls value

/-- The value with the defaults of declared members that are absent or null written in. -/
def fill (schema : Schema) (value : Value) : Value :=
  schema.revise withDefaults value

/-- A change that leaves the declared members as they are. -/
def KeepsMembers (change : EntryChange) : Prop :=
  ∀ fields entries, ∀ p ∈ fields,
    Value.lookup p.1 (change fields entries) = Value.lookup p.1 entries

theorem declaredOnly_keepsMembers : KeepsMembers declaredOnly := by
  intro fields entries p hp
  let keep (key : Value) : Bool :=
    fields.any fun q => key.isText q.1 && !(Value.lookup q.1 entries).isNull
  refine Value.lookup_filter keep fun hpresent => ?_
  refine List.any_eq_true.mpr ⟨p, hp, ?_⟩
  rw [Value.isNull_eq_false hpresent]
  simp [Value.isText]

theorem withoutNulls_keeps {fields : List (String × Field)} {entries : List (Value × Value)}
    {name : String} (h : Value.lookup name entries ≠ .null) :
    (!fields.any fun q => (Value.str name).isText q.1 && (Value.lookup q.1 entries).isNull) =
      true := by
  rw [Bool.not_eq_true', List.any_eq_false]
  intro q _ hdropped
  obtain ⟨hkey, hnull⟩ := Bool.and_eq_true_iff.mp hdropped
  have hname : name = q.1 := Value.str.inj (Value.isText_iff.mp hkey)
  rw [hname] at h
  exact h (Value.isNull_iff.mp hnull)

/-- A declared member that is null is not there any more, and one with a value is. -/
theorem valueAt?_withoutNulls {fields : List (String × Field)} {p : String × Field} (hp : p ∈ fields)
    (entries : List (Value × Value)) :
    Value.valueAt? p.1 (withoutNulls fields entries) =
      if (Value.lookup p.1 entries).isNull then none else some (Value.lookup p.1 entries) := by
  let keep (key : Value) : Bool :=
    !fields.any fun q => key.isText q.1 && (Value.lookup q.1 entries).isNull
  show Value.valueAt? p.1 (entries.filter fun e => keep e.1) = _
  cases hnull : (Value.lookup p.1 entries).isNull with
  | true =>
    have hkeep : keep (.str p.1) = false := by
      rw [Bool.not_eq_false', List.any_eq_true]
      exact ⟨p, hp, by simp [Value.isText, hnull]⟩
    rw [Value.valueAt?_filter_of_neg hkeep, if_pos rfl]
  | false =>
    have hpresent : Value.lookup p.1 entries ≠ .null := fun h => by
      rw [Value.isNull_iff.mpr h] at hnull
      cases hnull
    rw [Value.valueAt?_filter_of_pos (withoutNulls_keeps hpresent),
      Value.valueAt?_of_lookup hpresent, if_neg Bool.false_ne_true]

theorem lookup_withDefaults_of_not_mem {fields : List (String × Field)} {name : String}
    (h : name ∉ fields.map Prod.fst) (entries : List (Value × Value)) :
    Value.lookup name (withDefaults fields entries) = Value.lookup name entries := by
  induction fields generalizing entries with
  | nil => rfl
  | cons p rest ih =>
    rw [List.map_cons, List.mem_cons, not_or] at h
    obtain ⟨hname, hrest⟩ := h
    rw [withDefaults, List.foldl_cons]
    refine (ih hrest _).trans ?_
    split
    · rw [Value.lookup_putEntry, if_neg fun heq => hname heq.symm]
    · rfl

/-- A declared member has its default where it is absent or null, and is left as it is otherwise. -/
theorem lookup_withDefaults {fields : List (String × Field)}
    (hnames : (fields.map Prod.fst).Nodup) {p : String × Field} (hp : p ∈ fields)
    (entries : List (Value × Value)) :
    Value.lookup p.1 (withDefaults fields entries) =
      if (Value.lookup p.1 entries).isNull then p.2.default else Value.lookup p.1 entries := by
  induction fields generalizing entries with
  | nil => cases hp
  | cons q rest ih =>
    rw [List.map_cons, List.nodup_cons] at hnames
    obtain ⟨hnot, hrest⟩ := hnames
    rw [withDefaults, List.foldl_cons]
    -- Each default is written in once, as no later member has the same name.
    rcases List.mem_cons.mp hp with rfl | hmem
    · refine (lookup_withDefaults_of_not_mem hnot _).trans ?_
      cases hnull : (Value.lookup p.1 entries).isNull with
      | false => rfl
      | true =>
        cases hdefault : p.2.default.isNull with
        | true =>
          show Value.lookup p.1 entries = p.2.default
          rw [Value.isNull_iff.mp hnull, Value.isNull_iff.mp hdefault]
        | false =>
          show Value.lookup p.1 (Value.putEntry (.str p.1) p.2.default entries) = p.2.default
          rw [Value.lookup_putEntry, if_pos rfl]
    · have hne : q.1 ≠ p.1 := fun heq => hnot (heq ▸ List.mem_map_of_mem hmem)
      refine (ih hrest hmem _).trans ?_
      split
      · rw [Value.lookup_putEntry, if_neg hne]
      · rfl

end Schema
end Schematic
