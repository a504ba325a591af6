import Schematic.Definition
import Schematic.Proofs.Schema.Reading

/-!
What keeps a definition from being read.  A reading goes on after problems and names them all in
the end.  One thing stops it at once: an integer beyond the range of floats, as the default of a
document that is read as a field of numbers.

Every reader has a lemma that says when it is stopped, in terms of its parts; where it is not, it
has a result or names a problem.  The last block of fields and the last elements of a document are
read, and of a text all the members of such a block, also those that others of their names replace.
-/

namespace Schematic

namespace Checked

/-- A reading has a result, or it names the problems for which it has none. -/
def Answered {α : Type} (x : Checked α) : Prop :=
  (∃ a, x = .ok a) ∨ ∃ issues, issues ≠ [] ∧ x = .error (.issues issues)

/-- A reading is stopped if and only if `p` holds; otherwise it has a result or names a problem. -/
inductive StoppedIf {α : Type} (p : Prop) : Checked α → Prop
  | result (hp : ¬p) (a : α) : StoppedIf p (.ok a)
  | refused (hp : ¬p) {issues : List Issue} (hissues : issues ≠ []) :
      StoppedIf p (.error (.issues issues))
  | stopped (hp : p) : StoppedIf p (.error .defaultTooLarge)

variable {α β : Type} {p q : Prop} {x : Checked α}

theorem StoppedIf.congr (h : StoppedIf p x) (hpq : p ↔ q) : StoppedIf q x := by
  cases h with
  | result hp a => exact .result (mt hpq.mpr hp) a
  | refused hp hissues => exact .refused (mt hpq.mpr hp) hissues
  | stopped hp => exact .stopped (hpq.mp hp)

theorem stoppedIf_ok (a : α) : StoppedIf False (.ok a) :=
  .result id a

theorem stoppedIf_problem (problem : Problem) :
    StoppedIf False (Checked.problem problem : Checked α) :=
  .refused id (List.cons_ne_nil _ _)

theorem StoppedIf.answered_iff (h : StoppedIf p x) : Answered x ↔ ¬p := by
  cases h with
  | result hp a => exact iff_of_true (.inl ⟨a, rfl⟩) hp
  | refused hp hissues => exact iff_of_true (.inr ⟨_, hissues, rfl⟩) hp
  | stopped hp =>
    refine iff_of_false ?_ (not_not_intro hp)
    rintro (⟨_, heq⟩ | ⟨_, -, heq⟩) <;> cases heq

theorem StoppedIf.stopped_iff (h : StoppedIf p x) : x = .error .defaultTooLarge ↔ p := by
  cases h with
  | result hp a => exact iff_of_false nofun hp
  | refused hp hissues => exact iff_of_false nofun hp
  | stopped hp => exact iff_of_true rfl hp

/-- Two readings in order are stopped if one of them is. -/
theorem StoppedIf.ap {f : Checked (α → β)} (hf : StoppedIf p f) (hx : StoppedIf q x) :
    StoppedIf (p ∨ q) (f.ap x) := by
  cases hf with
  | result hp g =>
    cases hx with
    | result hq a => exact .result (not_or_intro hp hq) (g a)
    | refused hq hissues => exact .refused (not_or_intro hp hq) hissues
    | stopped hq => exact .stopped (.inr hq)
  | refused hp hissues =>
    cases hx with
    | result hq a => exact .refused (not_or_intro hp hq) hissues
    | refused hq _ =>
      exact .refused (not_or_intro hp hq) (List.append_ne_nil_of_left_ne_nil hissues _)
    | stopped hq => exact .stopped (.inr hq)
  | stopped hp => cases hx <;> exact .stopped (.inl hp)

theorem StoppedIf.under (h : StoppedIf p x) (place : Place) : StoppedIf p (x.under place) := by
  cases h with
  | result hp a => exact .result hp a
  | refused hp hissues => exact .refused hp (by simpa using hissues)
  | stopped hp => exact .stopped hp

theorem StoppedIf.map (h : StoppedIf p x) (f : α → β) : StoppedIf p (x.map f) := by
  cases h with
  | result hp a => exact .result hp (f a)
  | refused hp hissues => exact .refused hp hissues
  | stopped hp => exact .stopped hp

/-- Readings in order are stopped if one of them is. -/
theorem stoppedIf_all {f : α → Checked β} {P : α → Prop} {as : List α}
    (h : ∀ a ∈ as, StoppedIf (P a) (f a)) : StoppedIf (∃ a ∈ as, P a) (all (as.map f)) := by
  induction as with
  | nil => exact .result (by simp) []
  | cons a rest ih =>
    obtain ⟨hhead, htail⟩ := List.forall_mem_cons.mp h
    exact (((stoppedIf_ok List.cons).ap hhead).ap (ih htail)).congr (by simp)

end Checked

open Checked (StoppedIf stoppedIf_ok stoppedIf_problem stoppedIf_all)

variable {medium : Medium} {room : Nat}

/-! ## Scalars -/

namespace Reading

theorem stoppedIf_text (value : Value) : StoppedIf False (text medium value) := by
  unfold text
  split
  · exact stoppedIf_ok _
  · split
    · exact stoppedIf_problem _
    · exact stoppedIf_ok _
    · exact stoppedIf_problem _
  · exact stoppedIf_problem _

theorem stoppedIf_booleanWord (s : String) : StoppedIf False (booleanWord s) := by
  unfold booleanWord
  dsimp only
  split_ifs
  · exact stoppedIf_ok _
  · exact stoppedIf_ok _
  · exact stoppedIf_problem _

theorem stoppedIf_booleanInt (i : Int) : StoppedIf False (booleanInt i) := by
  unfold booleanInt
  split_ifs
  · exact stoppedIf_ok _
  · exact stoppedIf_ok _
  · exact stoppedIf_problem _
  · exact stoppedIf_problem _

theorem stoppedIf_boolean (value : Value) : StoppedIf False (boolean medium value) := by
  unfold boolean
  split
  · exact stoppedIf_ok _
  · exact stoppedIf_booleanWord _
  · split
    · exact stoppedIf_problem _
    · exact stoppedIf_booleanWord _
    · exact stoppedIf_problem _
  · exact stoppedIf_booleanInt _
  · split
    · exact stoppedIf_booleanInt _
    · exact stoppedIf_problem _
  · exact stoppedIf_problem _

end Reading

namespace Decode

theorem stoppedIf_kind (type : Value) : StoppedIf False (Decode.kind medium type) := by
  unfold Decode.kind
  split
  · exact stoppedIf_problem _
  · split
    · exact stoppedIf_ok _
    · exact stoppedIf_problem _

theorem stoppedIf_tags (value : Value) : StoppedIf False (Decode.tags medium value) := by
  have hfrom (index : Nat) (items : List Value) :
      StoppedIf False (Checked.all (tagsFrom medium index items)) := by
    induction items generalizing index with
    | nil => exact stoppedIf_ok _
    | cons item rest ih =>
      have hitem := (@Reading.stoppedIf_text medium item).under (.index index)
      exact (((stoppedIf_ok List.cons).ap hitem).ap (ih (index + 1))).congr (by simp)
  unfold Decode.tags
  split
  · exact hfrom 0 _
  · exact stoppedIf_problem _

theorem stoppedIf_read {α : Type} {absent : Checked α} {reader : Value → Checked α}
    (habsent : StoppedIf False absent) (hreader : ∀ value, StoppedIf False (reader value))
    (name : String) (value : Option Value) :
    StoppedIf False (Members.read name absent reader value) := by
  cases value with
  | none => exact habsent
  | some value => exact (hreader value).under (.name name)

/-! ## Definitions -/

/-- A default that stops the reading of a field of a type. -/
def TooLarge (type default : Value) : Prop :=
  type = .str "number" ∧ ∃ i, default = .int i ∧ Binary64.ofInt? i = none

theorem stoppedIf_restore (type default : Value) :
    StoppedIf (TooLarge type default) (restore type default) := by
  unfold restore
  split
  next text =>
    have hother : ¬ TooLarge (.str "datetime") (.str text) := fun ⟨_, _, hi, _⟩ => nomatch hi
    split
    · exact .result hother _
    · exact .result hother _
  next i =>
    split
    next x hx =>
      refine .result ?_ _
      rintro ⟨-, j, hj, hnone⟩
      rw [← Value.int.inj hj, hx] at hnone
      cases hnone
    next hnone => exact .stopped ⟨rfl, i, rfl, hnone⟩
  next hnumber =>
    refine .result ?_ _
    rintro ⟨rfl, i, rfl, -⟩
    exact hnumber i rfl rfl

variable {p q : Prop} {m : Members}

theorem stoppedIf_toSchema (hfields : StoppedIf p (m.fields.getD (.ok [])))
    (helements : StoppedIf q (m.elements.getD (.ok none))) :
    StoppedIf (p ∨ q) (m.toSchema .json room) := by
  have htype := @stoppedIf_read _ (Checked.under (.name "type") (.problem .missing))
    (fun type => inside .json room (kind .json type)) ((stoppedIf_problem _).under _)
    (fun type => stoppedIf_kind type) "type" m.type
  have hdescription := stoppedIf_read (stoppedIf_ok "") (@Reading.stoppedIf_text .json)
    "description" m.description
  exact (((((stoppedIf_ok Schema.mk).ap htype).ap hdescription).ap
    (hfields.under (.name "fields"))).ap (helements.under (.name "elements"))).congr (by simp)

theorem stoppedIf_toField (hschema : StoppedIf p (m.toSchema .json room)) (restoring : Bool) :
    StoppedIf (p ∨ restoring = true ∧ TooLarge (m.type.getD .null) (m.default.getD .null))
      (m.toField .json room restoring) := by
  have hdefault : StoppedIf (restoring = true ∧ TooLarge (m.type.getD .null) (m.default.getD .null))
      (defaultOf restoring m) := by
    cases restoring with
    | true => exact (stoppedIf_restore _ _).congr (by simp)
    | false => exact .result (by simp) _
  have hrequired := stoppedIf_read (stoppedIf_ok false) (@Reading.stoppedIf_boolean .json)
    "required" m.required
  have htags := stoppedIf_read (stoppedIf_ok []) (@stoppedIf_tags .json) "tags" m.tags
  exact (((((stoppedIf_ok FieldOf.mk).ap hschema).ap hrequired).ap hdefault).ap htags).congr
    (by simp)

/-! ## Documents -/

/-- A document of numbers with an integer beyond the range of floats as its default. -/
inductive LargeDefault : Value → Prop
  | intro {entries : List (Value × Value)} {i : Int}
      (htype : Value.lastAt? "type" entries = some (.str "number"))
      (hdefault : Value.lastAt? "default" entries = some (.int i))
      (hlarge : Binary64.ofInt? i = none) : LargeDefault (.dict entries)

/-- A part of a document is read as a declared member: it is in the last block of fields. -/
inductive FieldPart : Value → Value → Prop
  | intro {document block key part : Value} {entries members : List (Value × Value)}
      (hentries : document.entries? = some entries)
      (hblock : Value.lastAt? "fields" entries = some block)
      (hmembers : block.entries? = some members) (hpart : (key, part) ∈ members) :
      FieldPart document part

/-- A part of a document is read as the schema of its elements. -/
inductive ElementPart : Value → Value → Prop
  | intro {document part : Value} {entries : List (Value × Value)}
      (hentries : document.entries? = some entries)
      (hpart : Value.lastAt? "elements" entries = some part) : ElementPart document part

/-- Inside a document another one is read as a declared member, at any depth. -/
inductive Declares : Value → Value → Prop
  | field {document part : Value} (hpart : FieldPart document part) : Declares document part
  | inField {document part field : Value} (hpart : FieldPart document part)
      (h : Declares part field) : Declares document field
  | inElements {document part field : Value} (hpart : ElementPart document part)
      (h : Declares part field) : Declares document field

/-- Reading a document as a schema is stopped by one of the fields inside it. -/
def Overflows (document : Value) : Prop :=
  ∃ field, Declares document field ∧ LargeDefault field

theorem overflows_iff {document : Value} : Overflows document ↔
    (∃ part, FieldPart document part ∧ (Overflows part ∨ LargeDefault part)) ∨
      ∃ part, ElementPart document part ∧ Overflows part := by
  constructor
  · rintro ⟨field, hdeclares, hlarge⟩
    cases hdeclares with
    | field hpart => exact .inl ⟨_, hpart, .inr hlarge⟩
    | inField hpart h => exact .inl ⟨_, hpart, .inl ⟨_, h, hlarge⟩⟩
    | inElements hpart h => exact .inr ⟨_, hpart, _, h, hlarge⟩
  · rintro (⟨part, hpart, ⟨field, h, hlarge⟩ | hlarge⟩ | ⟨part, hpart, field, h, hlarge⟩)
    · exact ⟨field, .inField hpart h, hlarge⟩
    · exact ⟨part, .field hpart, hlarge⟩
    · exact ⟨field, .inElements hpart h, hlarge⟩

theorem stoppedIf_member {field : Checked Field} (h : StoppedIf p field) (key : Value) :
    StoppedIf p (member .json key field) := by
  have hname := (@Reading.stoppedIf_text .json key).under (.name "[key]")
  exact ((((stoppedIf_ok Prod.mk).ap hname).ap h).under (placeOf key)).congr (by simp)

variable {P : Value → Prop} {document block part : Value}

theorem stoppedIf_fieldsOf (h : ∀ members, block.entries? = some members →
      ∀ e ∈ members, StoppedIf (P e.2) (fieldOf .json (room - 1) e.2)) :
    StoppedIf (∃ members, block.entries? = some members ∧ ∃ e ∈ members, P e.2)
      (fieldsOf .json room block) := by
  cases hmembers : block.entries? with
  | none =>
    cases block with
    | dict | view => cases hmembers
    | null => exact .result (by simp) _
    | _ => exact .refused (by simp) (List.cons_ne_nil _ _)
  | some members =>
    have hread : fieldsOf .json room block = collect (memberList .json room members) := by
      cases block with
      | dict | view => rw [← Option.some.inj hmembers]; rfl
      | _ => cases hmembers
    rw [hread, memberList_eq]
    have hall : ∀ e ∈ members, StoppedIf (P e.2)
        (member .json e.1 (inside .json room (fieldOf .json (room - 1) e.2))) :=
      fun e he => stoppedIf_member (h members hmembers e he) e.1
    exact ((stoppedIf_all hall).map _).congr (by simp)

theorem stoppedIf_elementsOf (h : StoppedIf p (schemaOf .json (room - 1) part)) :
    StoppedIf p (elementsOf .json room part) := by
  cases part with
  | dict | view => exact h.map some
  | null =>
    cases h with
    | refused hp _ => exact .result hp none
  | _ =>
    cases h with
    | refused hp hissues => exact .refused hp hissues

theorem largeDefault_dict_iff {entries : List (Value × Value)} :
    LargeDefault (.dict entries) ↔
      TooLarge ((Value.lastAt? "type" entries).getD .null)
        ((Value.lastAt? "default" entries).getD .null) := by
  constructor
  · rintro ⟨htype, hdefault, hlarge⟩
    rw [htype, hdefault]
    exact ⟨rfl, _, rfl, hlarge⟩
  · rintro ⟨htype, i, hdefault, hlarge⟩
    have hfound {name : String} {value : Value} (hvalue : value ≠ .null)
        (h : (Value.lastAt? name entries).getD .null = value) :
        Value.lastAt? name entries = some value := by
      cases hlast : Value.lastAt? name entries with
      | none => rw [hlast] at h; exact absurd h.symm hvalue
      | some found => rw [hlast] at h; exact congrArg some h
    exact .intro (hfound nofun htype) (hfound nofun hdefault) hlarge

/-- Reading a document as a field is stopped in it as a schema, or by its default. -/
theorem stoppedIf_fieldOf (h : StoppedIf p (schemaOf .json room document)) :
    StoppedIf (p ∨ LargeDefault document) (fieldOf .json room document) := by
  cases document with
  | dict entries =>
    refine (stoppedIf_toField h true).congr (or_congr_right ?_)
    rw [membersOf_eq, largeDefault_dict_iff]
    exact and_iff_right rfl
  | view entries =>
    exact (stoppedIf_toField h false).congr (or_congr_right
      ⟨fun h => absurd h.1 Bool.false_ne_true, nofun⟩)
  | _ =>
    cases h with
    | refused hp _ => exact .refused (not_or_intro hp nofun) (List.cons_ne_nil _ _)

theorem sizeOf_entry_lt {entries : List (Value × Value)} (h : document.entries? = some entries)
    {e : Value × Value} (he : e ∈ entries) : sizeOf e.2 < sizeOf document := by
  have hlt := List.sizeOf_lt_of_mem he
  obtain ⟨key, value⟩ := e
  cases document with
  | dict | view =>
    obtain rfl := Option.some.inj h
    simp only [Value.dict.sizeOf_spec, Value.view.sizeOf_spec, Prod.mk.sizeOf_spec] at hlt ⊢
    omega
  | _ => cases h

/-- The last block of fields stops the reading with one of the fields in it. -/
theorem stoppedIf_block {entries : List (Value × Value)}
    (hentries : document.entries? = some entries)
    (h : ∀ part, FieldPart document part →
      StoppedIf (P part) (fieldOf .json (room - 1) part)) :
    StoppedIf (∃ part, FieldPart document part ∧ P part)
      (((Value.lastAt? "fields" entries).map (fieldsOf .json room)).getD (.ok [])) := by
  cases hblock : Value.lastAt? "fields" entries with
  | none =>
    refine .result ?_ []
    rintro ⟨_, ⟨hsome, hlast, -, -⟩, -⟩
    rw [← Option.some.inj (hentries.symm.trans hsome), hblock] at hlast
    cases hlast
  | some block =>
    have hfields := @stoppedIf_fieldsOf room P block fun members hmembers e he =>
      h e.2 (.intro hentries hblock hmembers he)
    refine hfields.congr ⟨?_, ?_⟩
    · rintro ⟨members, hmembers, e, he, hP⟩
      exact ⟨e.2, .intro hentries hblock hmembers he, hP⟩
    · rintro ⟨part, ⟨hsome, hlast, hmembers, hpart⟩, hP⟩
      rw [← Option.some.inj (hentries.symm.trans hsome), hblock] at hlast
      obtain rfl := Option.some.inj hlast
      exact ⟨_, hmembers, _, hpart, hP⟩

theorem stoppedIf_element {entries : List (Value × Value)}
    (hentries : document.entries? = some entries)
    (h : ∀ part, ElementPart document part →
      StoppedIf (P part) (schemaOf .json (room - 1) part)) :
    StoppedIf (∃ part, ElementPart document part ∧ P part)
      (((Value.lastAt? "elements" entries).map (elementsOf .json room)).getD (.ok none)) := by
  cases hpart : Value.lastAt? "elements" entries with
  | none =>
    refine .result ?_ none
    rintro ⟨_, ⟨hsome, hlast⟩, -⟩
    rw [← Option.some.inj (hentries.symm.trans hsome), hpart] at hlast
    cases hlast
  | some part =>
    refine (stoppedIf_elementsOf (h part (.intro hentries hpart))).congr ⟨?_, ?_⟩
    · exact fun hP => ⟨part, .intro hentries hpart, hP⟩
    · rintro ⟨other, ⟨hsome, hlast⟩, hP⟩
      rw [← Option.some.inj (hentries.symm.trans hsome), hpart] at hlast
      rwa [Option.some.inj hlast]

theorem FieldPart.sizeOf_lt (h : FieldPart document part) : sizeOf part < sizeOf document := by
  cases h with
  | intro hentries hblock hmembers hpart =>
    exact Nat.lt_trans (sizeOf_entry_lt hmembers hpart)
      (sizeOf_entry_lt hentries (Value.lastAt?_mem hblock))

theorem ElementPart.sizeOf_lt (h : ElementPart document part) : sizeOf part < sizeOf document := by
  cases h with
  | intro hentries hpart => exact sizeOf_entry_lt hentries (Value.lastAt?_mem hpart)

/-- Reading a document as a schema is stopped by the fields inside it, and by nothing else. -/
theorem stoppedIf_schemaOf (room : Nat) (document : Value) :
    StoppedIf (Overflows document) (schemaOf .json room document) := by
  cases hentries : document.entries? with
  | none =>
    have hnone : ¬ Overflows document := by
      rw [overflows_iff]
      rintro (⟨_, ⟨hsome, -, -, -⟩, -⟩ | ⟨_, ⟨hsome, -⟩, -⟩)
      · rw [hentries] at hsome; cases hsome
      · rw [hentries] at hsome; cases hsome
    cases document with
    | dict | view => cases hentries
    | _ => exact .refused hnone (List.cons_ne_nil _ _)
  | some entries =>
    -- A part is read with less room than its document, so the room varies in the induction; the
    -- condition is the same in every room.
    have hfields := @stoppedIf_block room _ document entries hentries fun part hpart =>
      have _hlt := hpart.sizeOf_lt
      stoppedIf_fieldOf (stoppedIf_schemaOf (room - 1) part)
    have helements := @stoppedIf_element room _ document entries hentries fun part hpart =>
      have _hlt := hpart.sizeOf_lt
      stoppedIf_schemaOf (room - 1) part
    rw [schemaOf_of_entries hentries, membersOf_eq]
    exact (stoppedIf_toSchema hfields helements).congr overflows_iff.symm
termination_by sizeOf document

/-! ## Texts -/

/-- A text has a member that is read as a declared one, in the last block of fields of its own or of
its elements. -/
inductive TextDeclares : Json → Json → Prop
  | field {members block : List (String × Json)} {name : String} {part : Json}
      (hblock : Json.member? "fields" members = some (.object block))
      (hpart : (name, part) ∈ block) : TextDeclares (.object members) part
  | inElements {members : List (String × Json)} {element part : Json}
      (helement : Json.member? "elements" members = some element)
      (h : TextDeclares element part) : TextDeclares (.object members) part

/-- A document is read as a field that stops the reading. -/
def FieldOverflows (document : Value) : Prop :=
  Overflows document ∨ LargeDefault document

theorem stoppedIf_fieldsOfJson (block : Json) :
    StoppedIf (∃ members, block = .object members ∧ ∃ p ∈ members, FieldOverflows p.2.toValue)
      (fieldsOfJson block) := by
  cases block with
  | null => exact .result (by simp) []
  | object members =>
    have hall : ∀ p ∈ members, StoppedIf (FieldOverflows p.2.toValue)
        (member .json (.str p.1) (fieldOf .json maxRoom p.2.toValue)) :=
      fun p _ => stoppedIf_member (stoppedIf_fieldOf (stoppedIf_schemaOf maxRoom p.2.toValue)) _
    exact ((stoppedIf_all hall).map _).congr (by simp)
  | _ => exact .refused (by simp) (List.cons_ne_nil _ _)

theorem stoppedIf_elementsOfJson {element : Json} (h : StoppedIf p (schemaOfJson element)) :
    StoppedIf p (elementsOfJson element) := by
  cases element with
  | object => exact h.map some
  | null =>
    cases h with
    | refused hp _ => exact .result hp none
  | _ =>
    cases h with
    | refused hp hissues => exact .refused hp hissues

theorem exists_textDeclares_iff {members : List (String × Json)} {P : Json → Prop} :
    (∃ part, TextDeclares (.object members) part ∧ P part) ↔
      (∃ block, Json.member? "fields" members = some (.object block) ∧ ∃ p ∈ block, P p.2) ∨
        ∃ element, Json.member? "elements" members = some element ∧
          ∃ part, TextDeclares element part ∧ P part := by
  constructor
  · rintro ⟨part, hdeclares, hP⟩
    cases hdeclares with
    | field hblock hpart => exact .inl ⟨_, hblock, _, hpart, hP⟩
    | inElements helement h => exact .inr ⟨_, helement, part, h, hP⟩
  · rintro (⟨block, hblock, p, hp, hP⟩ | ⟨element, helement, part, h, hP⟩)
    · exact ⟨p.2, .field hblock hp, hP⟩
    · exact ⟨part, .inElements helement h, hP⟩

/-- Reading a text as a schema is stopped by one of its members, or inside one. -/
theorem stoppedIf_schemaOfJson (json : Json) :
    StoppedIf (∃ part, TextDeclares json part ∧ FieldOverflows part.toValue)
      (schemaOfJson json) := by
  match json with
  | .object members =>
    have hfields : StoppedIf (∃ block, Json.member? "fields" members = some (.object block) ∧
        ∃ p ∈ block, FieldOverflows p.2.toValue)
          (((Json.member? "fields" members).map fieldsOfJson).getD (.ok [])) := by
      cases Json.member? "fields" members with
      | none => exact .result (by simp) []
      | some block => exact (stoppedIf_fieldsOfJson block).congr (by simp)
    -- Only the elements are read as texts again; the members of a block are read as values.
    have helements : StoppedIf (∃ element, Json.member? "elements" members = some element ∧
        ∃ part, TextDeclares element part ∧ FieldOverflows part.toValue)
          (((Json.member? "elements" members).map elementsOfJson).getD (.ok none)) := by
      cases helement : Json.member? "elements" members with
      | none => exact .result (by simp) none
      | some element =>
        have hlt := List.sizeOf_lt_of_mem (member?_mem helement)
        exact (stoppedIf_elementsOfJson (stoppedIf_schemaOfJson element)).congr (by simp)
    show StoppedIf _ ((membersOfJson members).toSchema .json maxRoom)
    rw [membersOfJson_eq]
    exact (stoppedIf_toSchema hfields helements).congr exists_textDeclares_iff.symm
  | .null | .bool _ | .int _ | .float _ | .str _ | .array _ =>
    refine .refused ?_ (List.cons_ne_nil _ _)
    rintro ⟨part, hpart, -⟩
    cases hpart
termination_by sizeOf json
decreasing_by
  simp only [Json.object.sizeOf_spec, Prod.mk.sizeOf_spec] at hlt ⊢
  omega

end Decode

/-! ## Definitions -/

/-- A part of a text is read as a field: it is a member of a block of fields, or the whole text
where that is read as a field, or a declared member inside one of these. -/
inductive Target.Reads : Target → Json → Value → Prop
  | member {json part : Json} (hpart : Decode.TextDeclares json part) :
      Reads .schema json part.toValue
  | inMember {json part : Json} {field : Value} (hpart : Decode.TextDeclares json part)
      (h : Decode.Declares part.toValue field) : Reads .schema json field
  | whole (json : Json) : Reads .field json json.toValue
  | inWhole {json : Json} {field : Value} (h : Decode.Declares json.toValue field) :
      Reads .field json field

theorem Target.reads_schema_iff {json : Json} :
    (∃ field, Target.schema.Reads json field ∧ Decode.LargeDefault field) ↔
      ∃ part, Decode.TextDeclares json part ∧ Decode.FieldOverflows part.toValue := by
  constructor
  · rintro ⟨field, hreads, hlarge⟩
    cases hreads with
    | member hpart => exact ⟨_, hpart, .inr hlarge⟩
    | inMember hpart h => exact ⟨_, hpart, .inl ⟨field, h, hlarge⟩⟩
  · rintro ⟨part, hpart, ⟨field, h, hlarge⟩ | hlarge⟩
    · exact ⟨field, .inMember hpart h, hlarge⟩
    · exact ⟨part.toValue, .member hpart, hlarge⟩

theorem Target.reads_field_iff {json : Json} :
    (∃ field, Target.field.Reads json field ∧ Decode.LargeDefault field) ↔
      Decode.FieldOverflows json.toValue := by
  constructor
  · rintro ⟨field, hreads, hlarge⟩
    cases hreads with
    | whole => exact .inr hlarge
    | inWhole h => exact .inl ⟨field, h, hlarge⟩
  · rintro (⟨field, h, hlarge⟩ | hlarge)
    · exact ⟨field, .inWhole h, hlarge⟩
    · exact ⟨json.toValue, .whole json, hlarge⟩

namespace Definition

theorem stoppedIf_ofText (target : Target) (text : List UInt8) :
    StoppedIf (∃ json, Json.read true text = .ok json ∧
      ∃ field, target.Reads json field ∧ Decode.LargeDefault field) (ofText target text) := by
  unfold ofText
  cases Json.read true text with
  | error error => exact .refused (by simp) (List.cons_ne_nil _ _)
  | ok json =>
    cases target with
    | schema =>
      refine ((Decode.stoppedIf_schemaOfJson json).map Definition.schema).congr ?_
      rw [← Target.reads_schema_iff]
      simp
    | field =>
      refine ((Decode.stoppedIf_fieldOf
        (Decode.stoppedIf_schemaOf Decode.maxRoom json.toValue)).map Definition.field).congr ?_
      rw [← Decode.FieldOverflows, ← Target.reads_field_iff]
      simp

/-- A text is read as a definition or refused for problems that are named, unless a part of it that
is read as a field is one of numbers with an integer beyond the range of floats as its default.
Then the reading stops, and no problem is named. -/
theorem text_answered_iff (target : Target) (text : List UInt8) :
    (Checked.Answered (ofText target text) ↔
      ∀ json, Json.read true text = .ok json →
        ∀ field, target.Reads json field → ¬ Decode.LargeDefault field) ∧
    (ofText target text = .error .defaultTooLarge ↔
      ∃ json, Json.read true text = .ok json ∧
        ∃ field, target.Reads json field ∧ Decode.LargeDefault field) := by
  have hstopped := stoppedIf_ofText target text
  refine ⟨hstopped.answered_iff.trans ?_, hstopped.stopped_iff⟩
  push Not
  rfl

/-- The document of a field of numbers with ten to the power of four hundred as its default. -/
def hugeDefault : List UInt8 :=
  Text.Utf8.encode "\x7b\"type\":\"number\",\"default\":1" ++ List.replicate 400 48 ++
    Text.Utf8.encode "\x7d"

/-- The document of an object with a member of this kind. -/
def hugeMember : List UInt8 :=
  Text.Utf8.encode "\x7b\"type\":\"object\",\"fields\":\x7b\"size\":" ++ hugeDefault ++
    Text.Utf8.encode "\x7d\x7d"

/-- Neither document is read, and no problem is named. -/
theorem huge_default_not_answered :
    ¬ Checked.Answered (ofText .field hugeDefault) ∧
      ¬ Checked.Answered (ofText .schema hugeMember) := by
  have hfield : (ofText .field hugeDefault).map (fun _ => ()) = .error .defaultTooLarge := by
    decide +kernel
  have hschema : (ofText .schema hugeMember).map (fun _ => ()) = .error .defaultTooLarge := by
    decide +kernel
  have hnot {x : Except Refusal Definition}
      (h : x.map (fun _ => ()) = .error .defaultTooLarge) : ¬ Checked.Answered x := by
    rintro (⟨d, rfl⟩ | ⟨issues, -, rfl⟩) <;> cases h
  exact ⟨hnot hfield, hnot hschema⟩

end Definition
end Schematic
