import Schematic.Proofs.Outcome
import Schematic.Proofs.Schema.Document
import Schematic.Proofs.Value.Entries

/-!
What it says of a document that a schema was read from it.  Each member of the document is read by
itself, the last one under its name; so every definition inside the schema was read from a part of the
document, and its default is the one of that part, read again for the kind.

A JSON text is read as it is written, with repeated names, and the other documents are dictionaries.
The dictionary of a text is read as the same schema.
-/

namespace Schematic

namespace Checked

variable {α β : Type}

theorem ap_eq_ok {f : Checked (α → β)} {x : Checked α} {b : β} (h : ap f x = .ok b) :
    ∃ g a, f = .ok g ∧ x = .ok a ∧ g a = b := by
  unfold ap at h
  split at h
  next g a => exact ⟨g, a, rfl, rfl, Except.ok.inj h⟩
  all_goals cases h

theorem under_eq_ok {place : Place} {x : Checked α} {a : α} (h : x.under place = .ok a) :
    x = .ok a :=
  Outcome.mapError_eq_ok h

theorem all_eq_ok {xs : List (Checked α)} {as : List α} (h : all xs = .ok as) :
    xs = as.map Except.ok := by
  induction xs generalizing as with
  | nil =>
    obtain rfl := Except.ok.inj h
    rfl
  | cons x rest ih =>
    obtain ⟨_, others, hfirst, hrest, rfl⟩ := ap_eq_ok h
    obtain ⟨_, a, hcons, rfl, rfl⟩ := ap_eq_ok hfirst
    obtain rfl := Except.ok.inj hcons
    rw [ih hrest]
    rfl

theorem all_map_ok (as : List α) : all (as.map Except.ok) = (.ok as : Checked (List α)) := by
  induction as with
  | nil => rfl
  | cons a rest ih =>
    rw [List.map_cons, all, ih]
    rfl

end Checked

namespace Decode

variable {medium : Medium} {room : Nat}

/-! ## The members of a document -/

/-- What is found of a document, its last member under each name. -/
def membersUnder (medium : Medium) (room : Nat) (value? : String → Option Value) : Members where
  type := value? "type"
  description := value? "description"
  fields := (value? "fields").map (fieldsOf medium room)
  elements := (value? "elements").map (elementsOf medium room)
  required := value? "required"
  default := value? "default"
  tags := value? "tags"

theorem membersOf_eq (entries : List (Value × Value)) :
    membersOf medium room entries =
      membersUnder medium room (Value.lastAt? · entries) := by
  induction entries with
  | nil => rfl
  | cons e rest ih =>
    obtain ⟨key, value⟩ := e
    show withEntry medium room (key, value) (membersOf medium room rest) = _
    rw [ih]
    unfold withEntry
    split
    next hkey => simp_all [membersUnder, Value.lastAt?_cons, Value.isText]
    next hkey => simp_all [membersUnder, Value.lastAt?_cons, Value.isText]
    next name hfields helements hkey =>
      unfold Members.withValue
      split
      all_goals simp_all [membersUnder, Value.lastAt?_cons, Value.isText]
    next hkey =>
      have hother (name : String) : key.isText name = false := by
        rw [Bool.eq_false_iff, Ne, Value.isText_iff]
        exact hkey name
      simp [membersUnder, Value.lastAt?_cons, hother]

/-! ## Definitions -/

/-- The schema that members make up is made of what each of them is read as. -/
theorem toSchema_eq_ok_iff {m : Members} {schema : Schema} :
    m.toSchema medium room = .ok schema ↔
      Members.read "type" (Checked.under (.name "type") (.problem .missing))
          (fun type => inside medium room (Decode.kind medium type)) m.type = .ok schema.kind ∧
        Members.read "description" (.ok "") (Reading.text medium) m.description =
          .ok schema.description ∧
        m.fields.getD (.ok []) = .ok schema.fields ∧
        m.elements.getD (.ok none) = .ok schema.elements := by
  constructor
  · intro h
    obtain ⟨_, elements, hrest, helements, rfl⟩ := Checked.ap_eq_ok h
    obtain ⟨_, fields, hfront, hfields, rfl⟩ := Checked.ap_eq_ok hrest
    obtain ⟨_, description, hfirst, hdescription, rfl⟩ := Checked.ap_eq_ok hfront
    obtain ⟨_, kind, hmake, hkind, rfl⟩ := Checked.ap_eq_ok hfirst
    obtain rfl := Except.ok.inj hmake
    exact ⟨hkind, hdescription, Checked.under_eq_ok hfields, Checked.under_eq_ok helements⟩
  · obtain ⟨kind, description, fields, elements⟩ := schema
    rintro ⟨hkind, hdescription, hfields, helements⟩
    simp only [Members.toSchema, hkind, hdescription, hfields, helements]
    rfl

/-- The default that members give, read again for their type unless it is to be kept. -/
def defaultOf (restoring : Bool) (m : Members) : Checked Value :=
  if restoring then restore (m.type.getD .null) (m.default.getD .null)
  else .ok (m.default.getD .null)

theorem toField_eq_ok_iff {restoring : Bool} {m : Members} {field : Field} :
    m.toField medium room restoring = .ok field ↔
      m.toSchema medium room = .ok field.schema ∧
        Members.read "required" (.ok false) (Reading.boolean medium) m.required =
          .ok field.required ∧
        defaultOf restoring m = .ok field.default ∧
        Members.read "tags" (.ok []) (Decode.tags medium) m.tags = .ok field.tags := by
  constructor
  · intro h
    obtain ⟨_, tags, hrest, htags, rfl⟩ := Checked.ap_eq_ok h
    obtain ⟨_, default, hfront, hdefault, rfl⟩ := Checked.ap_eq_ok hrest
    obtain ⟨_, required, hfirst, hrequired, rfl⟩ := Checked.ap_eq_ok hfront
    obtain ⟨_, schema, hmake, hschema, rfl⟩ := Checked.ap_eq_ok hfirst
    obtain rfl := Except.ok.inj hmake
    exact ⟨hschema, hrequired, hdefault, htags⟩
  · obtain ⟨schema, required, default, tags⟩ := field
    rintro ⟨hschema, hrequired, hdefault, htags⟩
    change (if restoring = true then _ else _) = _ at hdefault
    simp only [Members.toField, hschema, hrequired, hdefault, htags]
    rfl

/-- The declared members that are read are those that are put together. -/
theorem collect_eq_ok_iff {members : List (Checked (String × Field))}
    {fields : List (String × Field)} :
    collect members = .ok fields ↔ ∃ read : List (String × Field), members = read.map Except.ok ∧
      fields = read.foldl (fun found p => Value.putMember p.1 p.2 found) [] := by
  constructor
  · intro h
    obtain ⟨read, hread, rfl⟩ := Outcome.map_eq_ok h
    exact ⟨read, Checked.all_eq_ok hread, rfl⟩
  · rintro ⟨read, rfl, rfl⟩
    rw [collect, Checked.all_map_ok]
    rfl

theorem member_eq_ok {key : Value} {field : Checked Field} {p : String × Field}
    (h : member medium key field = .ok p) :
    Reading.text medium key = .ok p.1 ∧ field = .ok p.2 := by
  obtain ⟨_, f, hfirst, hfield, rfl⟩ := Checked.ap_eq_ok (Checked.under_eq_ok h)
  obtain ⟨_, name, hmake, hname, rfl⟩ := Checked.ap_eq_ok hfirst
  obtain rfl := Except.ok.inj hmake
  exact ⟨Checked.under_eq_ok hname, hfield⟩

theorem inside_eq_ok {α : Type} {part : Checked α} {a : α} (h : inside medium room part = .ok a) :
    part = .ok a := by
  unfold inside at h
  split at h
  next => cases h
  next => exact h

/-- A schema is read from the members of a dictionary or a view. -/
theorem schemaOf_eq_ok {document : Value} {schema : Schema}
    (h : schemaOf medium room document = .ok schema) :
    ∃ entries, document.entries? = some entries ∧
      (membersOf medium room entries).toSchema medium room = .ok schema := by
  unfold schemaOf at h
  split at h
  next entries => exact ⟨entries, rfl, h⟩
  next entries => exact ⟨entries, rfl, h⟩
  next => cases h

theorem fieldOf_eq_ok {document : Value} {field : Field}
    (h : fieldOf medium room document = .ok field) :
    ∃ entries restoring, document.entries? = some entries ∧
      (membersOf medium room entries).toField medium room restoring = .ok field := by
  unfold fieldOf at h
  split at h
  next entries => exact ⟨entries, true, rfl, h⟩
  next entries => exact ⟨entries, false, rfl, h⟩
  next => cases h

theorem schemaOf_of_entries {document : Value} {entries : List (Value × Value)}
    (h : document.entries? = some entries) :
    schemaOf medium room document = (membersOf medium room entries).toSchema medium room := by
  cases document with
  | dict _ | view _ =>
    obtain rfl := Option.some.inj h
    rfl
  | _ => cases h

/-- A field is read as a schema, too. -/
theorem schemaOf_of_fieldOf {document : Value} {field : Field}
    (h : fieldOf medium room document = .ok field) :
    schemaOf medium room document = .ok field.schema := by
  obtain ⟨entries, _, hentries, h⟩ := fieldOf_eq_ok h
  rw [schemaOf_of_entries hentries]
  exact (toField_eq_ok_iff.mp h).1

/-! ## Parts of a document -/

/-- A definition inside a document, at any depth. -/
inductive Part (document : Value) : Value → Prop
  | root : Part document document
  | field {outer block key part : Value} {entries members : List (Value × Value)}
      (h : Part document outer) (hentries : outer.entries? = some entries)
      (hblock : (.str "fields", block) ∈ entries) (hmembers : block.entries? = some members)
      (hpart : (key, part) ∈ members) : Part document part
  | elements {outer part : Value} {entries : List (Value × Value)} (h : Part document outer)
      (hentries : outer.entries? = some entries) (hpart : (.str "elements", part) ∈ entries) :
      Part document part

theorem memberList_eq (entries : List (Value × Value)) :
    memberList medium room entries = entries.map fun e =>
      member medium e.1 (inside medium room (fieldOf medium (room - 1) e.2)) := by
  induction entries with
  | nil => rfl
  | cons e rest ih => rw [memberList, ih, List.map_cons]

/-- Declared members are put together from those of a dictionary or a view, or there are none. -/
theorem fieldsOf_eq_ok {block : Value} {fields : List (String × Field)}
    (h : fieldsOf medium room block = .ok fields) :
    fields = [] ∨ ∃ members, block.entries? = some members ∧
      collect (memberList medium room members) = .ok fields := by
  unfold fieldsOf at h
  split at h
  next => exact .inl (Except.ok.inj h).symm
  next members => exact .inr ⟨members, rfl, h⟩
  next members => exact .inr ⟨members, rfl, h⟩
  next => cases h

/-- A declared member is read from the value of a member of a dictionary or a view. -/
theorem fieldsOf_mem {block : Value} {fields : List (String × Field)}
    (h : fieldsOf medium room block = .ok fields) {p : String × Field} (hp : p ∈ fields) :
    ∃ members, block.entries? = some members ∧
      ∃ e ∈ members, fieldOf medium (room - 1) e.2 = .ok p.2 := by
  rcases fieldsOf_eq_ok h with rfl | ⟨members, hmembers, hcollect⟩
  · cases hp
  obtain ⟨read, hread, rfl⟩ := collect_eq_ok_iff.mp hcollect
  have hmem : Except.ok p ∈ memberList medium room members := by
    rcases Value.mem_putMembers hp with hmem | hnil
    · rw [hread]
      exact List.mem_map_of_mem hmem
    · cases hnil
  rw [memberList_eq] at hmem
  obtain ⟨e, he, hmember⟩ := List.mem_map.mp hmem
  exact ⟨members, hmembers, e, he, inside_eq_ok (member_eq_ok hmember).2⟩

/-- Declared members have distinct names. -/
theorem fieldsOf_nodup {block : Value} {fields : List (String × Field)}
    (h : fieldsOf medium room block = .ok fields) : (fields.map Prod.fst).Nodup := by
  rcases fieldsOf_eq_ok h with rfl | ⟨members, -, hcollect⟩
  · exact List.nodup_nil
  · obtain ⟨read, -, rfl⟩ := collect_eq_ok_iff.mp hcollect
    exact Value.nodup_putMembers List.nodup_nil

theorem elementsOf_eq_some {part : Value} {element : Schema}
    (h : elementsOf medium room part = .ok (some element)) :
    schemaOf medium (room - 1) part = .ok element := by
  unfold elementsOf at h
  split at h
  next => cases h
  next entries =>
    obtain ⟨schema, hschema, heq⟩ := Outcome.map_eq_ok (inside_eq_ok h)
    rw [← Option.some.inj heq]
    exact hschema
  next entries =>
    obtain ⟨schema, hschema, heq⟩ := Outcome.map_eq_ok (inside_eq_ok h)
    rw [← Option.some.inj heq]
    exact hschema
  next => cases inside_eq_ok h

/-- The fields of a schema are read from the members of a block among the entries of its document,
each under a name of its own, and its elements from an entry. -/
theorem blocks_of_toSchema {entries : List (Value × Value)} {schema : Schema}
    (h : (membersOf medium room entries).toSchema medium room = .ok schema) :
    (schema.fields.map Prod.fst).Nodup ∧
      (∀ p ∈ schema.fields, ∃ block members, Value.lastAt? "fields" entries = some block ∧
        block.entries? = some members ∧
          ∃ e ∈ members, fieldOf medium (room - 1) e.2 = .ok p.2) ∧
      ∀ element, schema.elements = some element → ∃ part,
        Value.lastAt? "elements" entries = some part ∧
          schemaOf medium (room - 1) part = .ok element := by
  rw [membersOf_eq] at h
  obtain ⟨-, -, hfields, helements⟩ := toSchema_eq_ok_iff.mp h
  change ((Value.lastAt? "fields" entries).map (fieldsOf medium room)).getD (.ok []) = _ at hfields
  change ((Value.lastAt? "elements" entries).map (elementsOf medium room)).getD (.ok none) = _
    at helements
  have hblock : (schema.fields.map Prod.fst).Nodup ∧ ∀ p ∈ schema.fields, ∃ block members,
      Value.lastAt? "fields" entries = some block ∧ block.entries? = some members ∧
        ∃ e ∈ members, fieldOf medium (room - 1) e.2 = .ok p.2 := by
    cases hfound : Value.lastAt? "fields" entries with
    | none =>
      rw [hfound] at hfields
      rw [← Except.ok.inj hfields]
      exact ⟨List.nodup_nil, nofun⟩
    | some block =>
      rw [hfound] at hfields
      refine ⟨fieldsOf_nodup hfields, fun p hp => ?_⟩
      obtain ⟨members, hmembers, hread⟩ := fieldsOf_mem hfields hp
      exact ⟨block, members, rfl, hmembers, hread⟩
  refine ⟨hblock.1, hblock.2, fun element helement => ?_⟩
  rw [helement] at helements
  cases hfound : Value.lastAt? "elements" entries with
  | none =>
    rw [hfound] at helements
    cases helements
  | some part =>
    rw [hfound] at helements
    exact ⟨part, rfl, elementsOf_eq_some helements⟩

/-- The fields and the elements of a schema are read from parts of its document. -/
theorem parts_of_schemaOf {document : Value} {schema : Schema}
    (h : schemaOf medium room document = .ok schema) :
    (∀ p ∈ schema.fields, ∃ part, Part document part ∧
        fieldOf medium (room - 1) part = .ok p.2) ∧
      ∀ element, schema.elements = some element → ∃ part, Part document part ∧
        schemaOf medium (room - 1) part = .ok element := by
  obtain ⟨entries, hentries, h⟩ := schemaOf_eq_ok h
  obtain ⟨-, hfields, helements⟩ := blocks_of_toSchema h
  constructor
  · intro p hp
    obtain ⟨block, members, hblock, hmembers, e, he, hfield⟩ := hfields p hp
    exact ⟨e.2, .field .root hentries (Value.lastAt?_mem hblock) hmembers he, hfield⟩
  · intro element helement
    obtain ⟨part, hpart, hread⟩ := helements element helement
    exact ⟨part, .elements .root hentries (Value.lastAt?_mem hpart), hread⟩

theorem Part.trans {document outer part : Value} (h : Part document outer) (hpart : Part outer part) :
    Part document part := by
  induction hpart with
  | root => exact h
  | field _ hentries hblock hmembers hmember ih => exact .field ih hentries hblock hmembers hmember
  | elements _ hentries helement ih => exact .elements ih hentries helement

/-! ## The dictionary of a text -/

mutual

/-- The limit on nesting does not count for what is given as JSON. -/
theorem membersOf_json (room room' : Nat) : ∀ entries : List (Value × Value),
    membersOf .json room entries = membersOf .json room' entries
  | [] => rfl
  | (key, value) :: rest => by
    show withEntry .json room (key, value) (membersOf .json room rest) = _
    rw [membersOf_json room room' rest]
    unfold withEntry
    rw [fieldsOf_json room room' value, elementsOf_json room room' value]
    rfl

theorem fieldOf_json (room room' : Nat) : ∀ document : Value,
    fieldOf .json room document = fieldOf .json room' document
  | .dict entries => by
    show (membersOf .json room entries).toField .json room true = _
    rw [membersOf_json room room' entries]
    rfl
  | .view entries => by
    show (membersOf .json room entries).toField .json room false = _
    rw [membersOf_json room room' entries]
    rfl
  | .null | .bool _ | .int _ | .float _ | .str _ | .bytes _ | .datetime _ | .list _ | .tuple _
  | .record _ _ | .foreign _ _ => rfl

theorem fieldsOf_json (room room' : Nat) : ∀ block : Value,
    fieldsOf .json room block = fieldsOf .json room' block
  | .dict entries => congrArg collect (memberList_json room room' entries)
  | .view entries => congrArg collect (memberList_json room room' entries)
  | .null | .bool _ | .int _ | .float _ | .str _ | .bytes _ | .datetime _ | .list _ | .tuple _
  | .record _ _ | .foreign _ _ => rfl

theorem memberList_json (room room' : Nat) : ∀ entries : List (Value × Value),
    memberList .json room entries = memberList .json room' entries
  | [] => rfl
  | (key, value) :: rest => by
    rw [memberList, memberList, memberList_json room room' rest,
      fieldOf_json (room - 1) (room' - 1) value]
    rfl

theorem elementsOf_json (room room' : Nat) : ∀ part : Value,
    elementsOf .json room part = elementsOf .json room' part
  | .dict entries => by
    show (Members.toSchema .json (room - 1) (membersOf .json (room - 1) entries)).map some = _
    rw [membersOf_json (room - 1) (room' - 1) entries]
    rfl
  | .view entries => by
    show (Members.toSchema .json (room - 1) (membersOf .json (room - 1) entries)).map some = _
    rw [membersOf_json (room - 1) (room' - 1) entries]
    rfl
  | .null | .bool _ | .int _ | .float _ | .str _ | .bytes _ | .datetime _ | .list _ | .tuple _
  | .record _ _ | .foreign _ _ => rfl

end

/-- A further member of a text in front of others. -/
def withMember (p : String × Json) (m : Members) : Members :=
  match p.1 with
  | "fields" => { m with fields := m.fields <|> some (fieldsOfJson p.2) }
  | "elements" => { m with elements := m.elements <|> some (elementsOfJson p.2) }
  | _ => m.withValue p.1 p.2.toValue

/-- What is found of the members of a text, the last one under each name. -/
theorem membersOfJson_eq (members : List (String × Json)) :
    membersOfJson members =
      { membersUnder .json maxRoom fun name => (Json.member? name members).map Json.toValue with
        fields := (Json.member? "fields" members).map fieldsOfJson
        elements := (Json.member? "elements" members).map elementsOfJson } := by
  have hcons (name : String) (p : String × Json) (rest : List (String × Json)) :
      Json.member? name (p :: rest) =
        (Json.member? name rest <|> if p.1 = name then some p.2 else none) := by
    unfold Json.member?
    rw [List.reverse_cons, List.find?_append, List.find?_singleton]
    cases rest.reverse.find? fun q => q.1 == name with
    | some found => rfl
    | none => by_cases hname : p.1 = name <;> simp [hname]
  induction members with
  | nil => rfl
  | cons p rest ih =>
    show withMember p (membersOfJson rest) = _
    rw [ih]
    unfold withMember
    split
    next hname => simp [membersUnder, hcons, hname]
    next hname => simp [membersUnder, hcons, hname]
    next hfields helements =>
      unfold Members.withValue
      split
      all_goals simp_all [membersUnder]

/-- The members of an object as they are put together. -/
theorem toValue_object_eq (members : List (String × Json)) :
    (Json.object members).toValue = .dict (((members.map fun p => (p.1, p.2.toValue)).foldl
      (fun found p => Value.putMember p.1 p.2 found) []).map fun p => (.str p.1, p.2)) := by
  show Value.object (Json.memberValues [] members) = _
  rw [Json.memberValues_eq]
  rfl

/-- The last entry of the dictionary of an object is the last member. -/
theorem lastAt?_toValue {members : List (String × Json)} {entries : List (Value × Value)}
    (h : (Json.object members).toValue = .dict entries) (name : String) :
    Value.lastAt? name entries = (Json.member? name members).map Json.toValue := by
  rw [toValue_object_eq] at h
  obtain rfl := Value.dict.inj h
  have hfind (found : List (String × Value)) :
      Value.valueAt? name (found.map fun p => (.str p.1, p.2)) =
        (found.find? fun p => p.1 == name).map Prod.snd := by
    unfold Value.valueAt?
    rw [List.find?_map, Option.map_map]
    rfl
  have hkeys {found : List (String × Value)} (hnames : (found.map Prod.fst).Nodup) :
      ((found.map fun p => (Value.str p.1, p.2)).map Prod.fst).Nodup := by
    rw [List.map_map]
    exact (List.nodup_map_iff_inj_on (List.Nodup.of_map _ hnames)).mpr fun p hp q hq heq =>
      List.inj_on_of_nodup_map hnames hp hq (Value.str.inj heq)
  have hnil : (([] : List (String × Value)).map Prod.fst).Nodup := List.nodup_nil
  rw [Value.lastAt?_of_nodup (hkeys (Value.nodup_putMembers hnil)), hfind,
    Value.find?_putMembers, Json.member?, ← List.map_reverse, List.find?_map, List.find?_nil]
  have hnone (found : Option (String × Json)) :
      ((found.map fun p : String × Json => (p.1, p.2.toValue)) <|> none).map Prod.snd =
        (found.map Prod.snd).map Json.toValue := by
    cases found <;> rfl
  exact hnone _

theorem memberList_of_related {values : List (String × Value)} {fields : List (String × Field)}
    (h : Value.MembersRelated (fun v f => fieldOf .json maxRoom v = .ok f) values fields)
    (room : Nat) :
    memberList .json room (values.map fun p => (.str p.1, p.2)) = fields.map Except.ok := by
  induction h with
  | nil => rfl
  | @cons p q rest rest' hpq _ ih =>
    obtain ⟨name, value⟩ := p
    obtain ⟨name', field⟩ := q
    obtain ⟨rfl, hfield⟩ : name = name' ∧ fieldOf .json maxRoom value = .ok field := hpq
    rw [List.map_cons, List.map_cons, memberList, ih, fieldOf_json (room - 1) maxRoom, hfield]
    rfl

/-- The declared members of a text are those of its dictionary. -/
theorem fieldsOf_of_json {json : Json} {fields : List (String × Field)}
    (h : fieldsOfJson json = .ok fields) (room : Nat) :
    fieldsOf .json room json.toValue = .ok fields := by
  cases json with
  | null => exact h
  | object members =>
    obtain ⟨read, hread, rfl⟩ := collect_eq_ok_iff.mp h
    -- Every member of the text is read as a member of the same name, and this stays so when the
    -- later ones take the places of the earlier.
    have hrelated : Value.MembersRelated (fun v f => fieldOf .json maxRoom v = .ok f)
        (members.map fun p => (p.1, p.2.toValue)) read := by
      have hall : List.Forall₂ (fun p q => member .json (.str p.1)
          (fieldOf .json maxRoom p.2.toValue) = .ok q) members read := by
        rw [← List.forall₂_eq_eq_eq, List.forall₂_map_left_iff, List.forall₂_map_right_iff] at hread
        exact hread
      rw [Value.MembersRelated, List.forall₂_map_left_iff]
      refine hall.imp fun p q hpq => ?_
      obtain ⟨hname, hfield⟩ := member_eq_ok hpq
      exact ⟨Except.ok.inj hname, hfield⟩
    rw [toValue_object_eq]
    show collect (memberList .json room _) = _
    have hnil : (([] : List (String × Field)).map Prod.fst).Nodup := List.nodup_nil
    refine collect_eq_ok_iff.mpr ⟨_, memberList_of_related (hrelated.putMembers .nil) room, ?_⟩
    exact (Value.putMembers_nil_of_nodup (Value.nodup_putMembers hnil)).symm
  | bool | int | float | str | array => cases h

theorem elementsOf_dict (room : Nat) (entries : List (Value × Value)) :
    elementsOf .json room (.dict entries) =
      (schemaOf .json (room - 1) (.dict entries)).map some := rfl

theorem member?_mem {name : String} {members : List (String × Json)} {json : Json}
    (h : Json.member? name members = some json) : (name, json) ∈ members := by
  obtain ⟨p, hp, rfl⟩ := Option.map_eq_some_iff.mp h
  obtain rfl : p.1 = name := by simpa using List.find?_some hp
  exact List.mem_reverse.mp (List.mem_of_find?_eq_some hp)

/-- The schema of a text is that of its dictionary. -/
theorem schemaOf_of_json (json : Json) {schema : Schema} (h : schemaOfJson json = .ok schema)
    (room : Nat) : schemaOf .json room json.toValue = .ok schema := by
  match json with
  | .object members =>
    have hentries := toValue_object_eq members
    rw [hentries]
    show (membersOf .json room _).toSchema .json room = _
    change (membersOfJson members).toSchema .json maxRoom = _ at h
    rw [membersOfJson_eq] at h
    obtain ⟨htype, hdescription, hfields, helements⟩ := toSchema_eq_ok_iff.mp h
    have hlast := lastAt?_toValue hentries
    rw [membersOf_eq, toSchema_eq_ok_iff]
    simp only [membersUnder, hlast]
    refine ⟨htype, hdescription, ?_, ?_⟩
    · cases hmember : Json.member? "fields" members with
      | none => rw [hmember] at hfields; exact hfields
      | some block => rw [hmember] at hfields; exact fieldsOf_of_json hfields room
    · cases hmember : Json.member? "elements" members with
      | none => rw [hmember] at helements; exact helements
      | some part =>
        have hmem := member?_mem hmember
        rw [hmember] at helements
        show elementsOf .json room part.toValue = _
        match part with
        | .null => exact helements
        | .object inner =>
          obtain ⟨element, helement, heq⟩ := Outcome.map_eq_ok helements
          have hread := schemaOf_of_json (.object inner) helement (room - 1)
          rw [toValue_object_eq] at hread ⊢
          rw [elementsOf_dict, hread, ← heq]
          rfl
        | .bool _ | .int _ | .float _ | .str _ | .array _ => cases helements
  | .null | .bool _ | .int _ | .float _ | .str _ | .array _ => cases h
termination_by sizeOf json
decreasing_by
  have hlt := List.sizeOf_lt_of_mem hmem
  simp only [Json.object.sizeOf_spec, Prod.mk.sizeOf_spec] at hlt ⊢
  omega

end Decode
end Schematic
