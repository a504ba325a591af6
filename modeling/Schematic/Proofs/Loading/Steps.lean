import Schematic.Loading
import Schematic.Proofs.Outcome
import Schematic.Proofs.Schema.WellFormed

/-!
The steps of loading.  An array is loaded element by element.  For a record, the schema and the
entries of the object determine its inputs: which fields something is loaded for, and what.  The
inputs are loaded one after the other, and the record is built from what they come to.
-/

namespace Schematic

namespace Noted

variable {α β : Type}

theorem result_bind (x : Noted α) (f : α → Noted β) :
    (x >>= f).result = x.result >>= fun a => (f a).result := by
  obtain ⟨events, result⟩ := x
  cases result <;> rfl

theorem events_bind {x : Noted α} {f : α → Noted β} (hx : x.events = [])
    (hf : ∀ a, x.result = .ok a → (f a).events = []) : (x >>= f).events = [] := by
  obtain ⟨events, result⟩ := x
  obtain rfl : events = [] := hx
  cases result with
  | error fault => rfl
  | ok a => exact hf a rfl

theorem bind_pure_bind {γ : Type} (x : Noted α) (f : α → β) (g : β → Noted γ) :
    (x >>= fun a => pure (f a)) >>= g = x >>= fun a => g (f a) := by
  obtain ⟨events, result⟩ := x
  cases result with
  | error fault => rfl
  | ok a =>
    show Noted.mk ((events ++ []) ++ (g (f a)).events) (g (f a)).result = _
    rw [List.append_nil]
    rfl

theorem forEach_result (f : α → Noted β) (as : List α) :
    (forEach f as).result = as.mapM fun a => (f a).result := by
  induction as with
  | nil => rfl
  | cons a as ih =>
    rw [List.mapM_cons, ← ih]
    show (f a >>= fun b => forEach f as >>= fun bs => pure (b :: bs)).result = _
    rw [result_bind]
    congr 1
    funext b
    exact result_bind _ _

theorem forEach_events {f : α → Noted β} {as : List α} (h : ∀ a ∈ as, (f a).events = []) :
    (forEach f as).events = [] := by
  induction as with
  | nil => rfl
  | cons a as ih =>
    obtain ⟨hhead, htail⟩ := List.forall_mem_cons.mp h
    exact events_bind hhead fun _ _ => events_bind (ih htail) fun _ _ => rfl

end Noted

/-- What a scalar of a kind is loaded as. -/
inductive Kind.Loads : Kind → Value → Value → Prop
  | boolean (b : Bool) : Loads .boolean (.bool b) (.bool b)
  | string (s : String) : Loads .string (.str s) (.str s)
  | integer (i : Int) : Loads .integer (.int i) (.int i)
  | wholeFloat {x : Binary64} {i : Int} (h : x.truncate? = some i) :
      Loads .integer (.float x) (.int i)
  | number (x : Binary64) : Loads .number (.float x) (.float x)
  | widened {i : Int} {x : Binary64} (h : Binary64.ofInt? i = some x) :
      Loads .number (.int i) (.float x)
  | datetime (d : DateTime) : Loads .datetime (.datetime d) (.datetime d)
  | timestamp {text : String} {d : DateTime} (h : Coercion.parseDateTime text = .ok d) :
      Loads .datetime (.str text) (.datetime d)

namespace Loading

/-- Something to be loaded for a field of a record: a value, by the schema of its member. -/
structure Input where
  field : RecordField
  schema : Schema
  value : Value

def Input.load (registry : Registry) (i : Input) : Noted Value :=
  i.schema.load registry i.value i.field.hint

end Loading

/-- The value of a member: its default takes the place of one that is absent or null. -/
def Field.valueIn (member : Field) (name : String) (entries : List (Value × Value)) : Value :=
  if (Value.lookup name entries).isNull then member.default else Value.lookup name entries

theorem Field.valueIn_cases (member : Field) (name : String) (entries : List (Value × Value)) :
    member.valueIn name entries = Value.lookup name entries ∨
      member.valueIn name entries = member.default := by
  unfold valueIn
  split
  · exact .inr rfl
  · exact .inl rfl

namespace Schema

open Loading (Input Member)

/-- What is loaded for a field: the value of its member, unless this is null. -/
def input? (schema : Schema) (entries : List (Value × Value)) (f : RecordField) : Option Input :=
  (Field.find? (memberName f.name) schema.fields).bind fun member =>
    if (Field.valueIn member (memberName f.name) entries).isNull then none
    else some ⟨f, member.schema, Field.valueIn member (memberName f.name) entries⟩

def inputs (schema : Schema) (entries : List (Value × Value)) (fields : List RecordField) :
    List Input :=
  fields.filterMap (schema.input? entries)

variable {schema : Schema} {entries : List (Value × Value)} {fields : List RecordField}
  {registry : Registry}

theorem find?_mem {name : String} {fields : List (String × Field)} {field : Field}
    (h : Field.find? name fields = some field) : (name, field) ∈ fields := by
  obtain ⟨p, hp, rfl⟩ := Option.map_eq_some_iff.mp h
  obtain rfl : p.1 = name := by simpa using List.find?_some hp
  exact List.mem_of_find?_eq_some hp

theorem input?_eq_some {f : RecordField} {i : Input} (h : schema.input? entries f = some i) :
    i.field = f ∧ i.value ≠ .null ∧
      ∃ member, (memberName f.name, member) ∈ schema.fields ∧ i.schema = member.schema ∧
        (i.value = Value.lookup (memberName f.name) entries ∨ i.value = member.default) := by
  obtain ⟨member, hmember, h⟩ := Option.bind_eq_some_iff.mp h
  split at h
  next => cases h
  next hpresent =>
    obtain rfl := Option.some.inj h
    exact ⟨rfl, fun hnull => hpresent (Value.isNull_iff.mpr hnull), member, find?_mem hmember, rfl,
      Field.valueIn_cases member (memberName f.name) entries⟩

theorem mem_inputs {i : Input} (h : i ∈ schema.inputs entries fields) :
    i.field ∈ fields ∧ schema.input? entries i.field = some i := by
  obtain ⟨f, hf, hinput⟩ := List.mem_filterMap.mp h
  obtain rfl := (input?_eq_some hinput).1
  exact ⟨hf, hinput⟩

/-- Everything that is loaded for a field is accepted by its schema. -/
theorem accepts_input {value : Value} (hschema : schema.WellFormed)
    (haccepts : schema.Accepts value) (hkind : schema.kind = .object)
    (hentries : value.entries? = some entries) {i : Input}
    (h : i ∈ schema.inputs entries fields) : i.schema.WellFormed ∧ i.schema.Accepts i.value := by
  obtain ⟨-, hinput⟩ := mem_inputs h
  obtain ⟨-, hpresent, member, hmember, hsame, hvalue⟩ := input?_eq_some hinput
  have hsatisfied := (accepts_object_iff hkind hentries).mp haccepts _ hmember
  rw [hsame]
  refine ⟨hschema.field hmember, ?_⟩
  rcases hvalue with hlookup | hdefault
  · rw [hlookup] at hpresent ⊢
    exact hsatisfied.2 hpresent
  · rw [hdefault] at hpresent ⊢
    exact (hschema.hasDefault hmember).accepts hpresent

theorem schema_of_input {i : Input} (h : i ∈ schema.inputs entries fields) :
    ∃ p ∈ schema.fields, i.schema = p.2.schema := by
  obtain ⟨-, -, member, hmember, hsame, -⟩ := input?_eq_some (mem_inputs h).2
  exact ⟨_, hmember, hsame⟩

/-! ## Loading by kind -/

/-- A scalar that is accepted is loaded, unless it is an integer beyond the range of floats. -/
theorem load_scalar (registry : Registry) (type : TypeExpr) {value : Value}
    (hobject : schema.kind ≠ .object) (harray : schema.kind ≠ .array)
    (hholds : schema.kind.Holds value) :
    (∃ x, schema.kind.Loads value x ∧ schema.load registry value type = pure x) ∨
      (schema.kind = .number ∧ ∃ i, value = .int i ∧ Binary64.ofInt? i = none ∧
        schema.load registry value type = .of (.error .intTooLarge)) := by
  obtain ⟨kind, description, fields, elements⟩ := schema
  cases hholds with
  | boolean b => exact .inl ⟨_, .boolean b, rfl⟩
  | string s => exact .inl ⟨_, .string s, rfl⟩
  | integer i => exact .inl ⟨_, .integer i, rfl⟩
  | @wholeFloat x h =>
    obtain ⟨i, hi⟩ := Binary64.truncate?_isSome_of_isWhole ((Binary64.isWhole_iff x).mpr h)
    refine .inl ⟨_, .wholeFloat hi, ?_⟩
    show Noted.of (Loading.integer (.float x)) = _
    cases x with
    | nan => cases hi
    | infinity => cases hi
    | finite => simp only [Loading.integer, hi]; rfl
  | integerNumber i =>
    have hload : (Schema.mk .number description fields elements).load registry (.int i) type =
        .of (Loading.number (.int i)) := rfl
    cases hi : Binary64.ofInt? i with
    | some x =>
      refine .inl ⟨_, .widened hi, ?_⟩
      rw [hload, Loading.number, hi]
      rfl
    | none => exact .inr ⟨rfl, i, rfl, hi, by rw [hload, Loading.number, hi]⟩
  | number x => exact .inl ⟨_, .number x, rfl⟩
  | datetime d => exact .inl ⟨_, .datetime d, rfl⟩
  | @timestamp text d h =>
    refine .inl ⟨_, .timestamp h, ?_⟩
    show Loading.dateTime (.str text) = _
    simp only [Loading.dateTime, h]
  | object => exact absurd rfl hobject
  | array => exact absurd rfl harray

theorem load_object {value : Value} {type : TypeExpr} (hkind : schema.kind = .object) :
    schema.load registry value type =
      Loading.object registry (loadMembers registry schema.fields) value type.base := by
  obtain ⟨kind, description, fields, elements⟩ := schema
  obtain rfl : kind = .object := hkind
  rfl

theorem itemsOf_eq {value : Value} {items : List Value} (h : value.items? = some items) :
    Loading.itemsOf value = .ok items := by
  have hnull : value.isNull = false := Value.isNull_eq_false (by rintro rfl; cases h)
  rw [Loading.itemsOf, hnull, h]
  rfl

theorem entriesOf_eq {value : Value} (h : value.entries? = some entries) :
    Loading.entriesOf value = .ok entries := by
  have hnull : value.isNull = false := Value.isNull_eq_false (by rintro rfl; cases h)
  rw [Loading.entriesOf, hnull, h]
  rfl

theorem load_array {value : Value} {items : List Value} {type : TypeExpr}
    (hkind : schema.kind = .array) (hitems : value.items? = some items) :
    schema.load registry value type =
      loadElements registry schema.elements items (Loading.elementType type.base) := by
  obtain ⟨kind, description, fields, elements⟩ := schema
  obtain rfl : kind = .array := hkind
  show (Noted.of (Loading.itemsOf value) >>= fun items => _) = _
  rw [itemsOf_eq hitems]
  rfl

theorem loadElements_result (elements : Option Schema) (items : List Value) (type : TypeExpr) :
    (loadElements registry elements items type).result =
      match elements with
      | none => .ok (.list items)
      | some element =>
        (items.mapM fun item => (element.load registry item type).result) >>= fun loaded =>
          .ok (.list loaded) := by
  cases elements with
  | none => rfl
  | some element =>
    show (Noted.forEach (fun item => element.load registry item type) items >>= fun loaded =>
      pure (Value.list loaded)).result = _
    rw [Noted.result_bind, Noted.forEach_result]
    rfl

theorem loadMember_eq (field : Field) :
    loadMember registry field =
      ⟨field.default, fun value type => field.schema.load registry value type⟩ := by
  obtain ⟨schema, required, default, tags⟩ := field
  rfl

theorem find?_loadMembers (name : String) (fields : List (String × Field)) :
    Member.find? name (loadMembers registry fields) =
      (Field.find? name fields).map (loadMember registry) := by
  induction fields with
  | nil => rfl
  | cons p rest ih =>
    obtain ⟨key, field⟩ := p
    by_cases hkey : key = name
    · simp [loadMembers, Member.find?, Field.find?, hkey]
    · simpa [loadMembers, Member.find?, Field.find?, hkey] using ih

theorem memberValues_eq (schema : Schema) (entries : List (Value × Value))
    (fields : List RecordField) :
    Loading.memberValues (loadMembers registry schema.fields) entries fields =
      Noted.forEach (fun i => i.load registry >>= fun x => pure (i.field.name, x))
        (schema.inputs entries fields) := by
  induction fields with
  | nil => rfl
  | cons f rest ih =>
    cases hmember : Field.find? (memberName f.name) schema.fields with
    | none =>
      have hnone : schema.input? entries f = none := by rw [input?, hmember]; rfl
      rw [inputs, List.filterMap_cons_none hnone, Loading.memberValues, find?_loadMembers, hmember]
      exact ih
    | some member =>
      have hvalue : (loadMember registry member).valueIn (memberName f.name) entries =
          Field.valueIn member (memberName f.name) entries := by
        rw [loadMember_eq]
        rfl
      rw [Loading.memberValues, find?_loadMembers, hmember]
      simp only [Option.map_some, hvalue]
      by_cases hnull : (Field.valueIn member (memberName f.name) entries).isNull = true
      · have hnone : schema.input? entries f = none := by
          rw [input?, hmember, Option.bind_some, if_pos hnull]
        rw [inputs, List.filterMap_cons_none hnone, if_pos hnull]
        exact ih
      · have hsome : schema.input? entries f =
            some ⟨f, member.schema, Field.valueIn member (memberName f.name) entries⟩ := by
          rw [input?, hmember, Option.bind_some, if_neg hnull]
        rw [inputs, List.filterMap_cons_some hsome, if_neg hnull, ih, loadMember_eq]
        exact (Noted.bind_pure_bind (member.schema.load registry _ f.hint) (fun x => (f.name, x))
          fun p => Noted.forEach _ (schema.inputs entries rest) >>= fun ps => pure (p :: ps)).symm

/-- What comes of loading the inputs, each under the name of its field. -/
def loadInputs (registry : Registry) (schema : Schema) (entries : List (Value × Value))
    (fields : List RecordField) : Except LoadFault (List (String × Value)) :=
  (schema.inputs entries fields).mapM fun i =>
    (i.load registry).result >>= fun x => .ok (i.field.name, x)

theorem load_record {value : Value} {type : TypeExpr} {ref : RecordRef} {c : RecordClass}
    (hkind : schema.kind = .object) (hentries : value.entries? = some entries)
    (htype : type.base = .record ref) (hfind : registry.find? ref = some c)
    (hfields : registry.fields c = .ok fields) :
    (schema.load registry value type).result =
        schema.loadInputs registry entries fields >>= registry.build c ∧
      ((∀ i ∈ schema.inputs entries fields, (i.load registry).events = []) →
        (schema.load registry value type).events = []) := by
  have hload : schema.load registry value type =
      Noted.forEach (fun i => i.load registry >>= fun x => pure (i.field.name, x))
        (schema.inputs entries fields) >>= fun values => .of (registry.build c values) := by
    rw [load_object hkind, htype, ← memberValues_eq]
    unfold Loading.object
    simp only [entriesOf_eq hentries, hfind, Loading.fieldsOf, hfields]
    rfl
  rw [hload, Noted.result_bind, Noted.forEach_result]
  constructor
  · simp only [Noted.result_bind]
    rfl
  · intro hevents
    refine Noted.events_bind (Noted.forEach_events fun i hi => ?_) fun _ _ => rfl
    exact Noted.events_bind (hevents i hi) fun _ _ => rfl

theorem loadInputs_names {values : List (String × Value)}
    (h : schema.loadInputs registry entries fields = .ok values) :
    values.map Prod.fst = (schema.inputs entries fields).map (·.field.name) := by
  have hall := Outcome.mapM_eq_ok h
  rw [← List.forall₂_eq_eq_eq, List.forall₂_map_left_iff, List.forall₂_map_right_iff]
  refine hall.flip.imp fun p i hp => ?_
  obtain ⟨x, -, hp⟩ := Outcome.bind_eq_ok hp
  rw [← Except.ok.inj hp]

theorem exists_loadInputs_iff :
    (∃ values, schema.loadInputs registry entries fields = .ok values) ↔
      ∀ i ∈ schema.inputs entries fields, ∃ x, (i.load registry).result = .ok x := by
  unfold loadInputs
  rw [Outcome.exists_mapM_eq_ok_iff]
  refine forall₂_congr fun i _ => ?_
  constructor
  · rintro ⟨p, hp⟩
    obtain ⟨x, hx, -⟩ := Outcome.bind_eq_ok hp
    exact ⟨x, hx⟩
  · rintro ⟨x, hx⟩
    exact ⟨(i.field.name, x), by rw [hx]; rfl⟩

/-- An object for a mapping is kept as a dictionary. -/
theorem load_mapping {value : Value} {type : TypeExpr} {form : MappingForm}
    {arguments : List TypeExpr} (hkind : schema.kind = .object)
    (hentries : value.entries? = some entries) (htype : type.base = .mapping form arguments) :
    schema.load registry value type = pure (.dict entries) := by
  rw [load_object hkind, htype]
  unfold Loading.object
  rw [entriesOf_eq hentries]
  rfl

end Schema
end Schematic
