import Schematic.Derivation
import Schematic.Proofs.Record.Instance
import Schematic.Proofs.Tag.Acceptance
import Schematic.Proofs.Tag.Grammar

/-!
Tags one after the other.  White space and more text behind a tag take nothing from its pairs, so that
they are read as if they stood alone and the rest is read as if it stood alone: `parse_append`.  The
texts that a record puts together for a field are joined by blanks, and come to the field that they
make one by one.
-/

namespace Schematic

/-- A cause as it is told of a text that the faulty text is part of. -/
def Cause.toldOf (text : String) : Cause → Cause
  | .malformedTag _ => .malformedTag text
  | cause => cause

namespace Tag

variable {s t w rest more : List Char} {pair : Pair} {good : List Pair}

/-! ## White space -/

theorem endsPair_append (hends : endsPair s = true) (hw : IsBlanks w) (hne : w ≠ []) :
    endsPair (s ++ (w ++ t)) = true := by
  cases s with
  | nil =>
    obtain ⟨c, w, rfl⟩ := List.exists_cons_of_ne_nil hne
    exact hw c List.mem_cons_self
  | cons c s => exact hends

/-- A pair that ends still ends where white space follows. -/
theorem Leads.append (h : Leads s pair more) (hw : IsBlanks w) (hne : w ≠ []) (t : List Char) :
    Leads (s ++ (w ++ t)) pair (more ++ (w ++ t)) := by
  obtain ⟨hblanks, hformed, hends⟩ := h
  rw [List.append_assoc, List.append_assoc]
  exact .of hblanks hformed (endsPair_append hends hw hne)

theorem Run.append (h : Run s good rest) (hw : IsBlanks w) (hne : w ≠ []) (t : List Char) :
    Run (s ++ (w ++ t)) good (rest ++ (w ++ t)) := by
  induction h with
  | none s => exact .none _
  | next h _ ih => exact .next (h.append hw hne t) ih

theorem leads_blanks_iff (hw : IsBlanks w) : Leads (w ++ t) pair rest ↔ Leads t pair rest := by
  rw [← leads_iff, ← leads_iff, stripStart_blanks hw]

theorem pairs_blanks (hw : IsBlanks w) (t : List Char) : pairs (w ++ t) = pairs t := by
  by_cases h : ∃ pair rest, Leads t pair rest
  · obtain ⟨pair, rest, hleads⟩ := h
    rw [pairs_of_leads hleads, pairs_of_leads ((leads_blanks_iff hw).mpr hleads)]
  · have hnone : ∀ pair rest, ¬ Leads t pair rest := fun pair rest hleads => h ⟨pair, rest, hleads⟩
    rw [pairs_of_none hnone, pairs_of_none, stripStart_blanks hw]
    intro pair rest hleads
    exact hnone pair rest ((leads_blanks_iff hw).mp hleads)

/-! ## Texts that follow each other -/

variable {text : String} {field updated result : Field} {cause : Cause}

theorem outcome_blanks [Text.Repertoire] (hw : IsBlanks w) (t : List Char) :
    outcome text field (w ++ t) = outcome text field t := by
  rw [outcome, outcome, pairs_blanks hw]

theorem Fault.toldOf [Text.Repertoire] (h : Fault text field s cause) (other : String) :
    Fault other field s (cause.toldOf other) := by
  cases h with
  | form hmore hnone => exact .form hmore hnone
  | literal h hvalue => exact .literal h hvalue
  | value h hvalue happly =>
    have hcause : cause.toldOf other = cause := by
      cases refusal_of_apply happly <;> rfl
    rw [hcause]
    exact .value h hvalue happly

theorem outcome_toldOf [Text.Repertoire] (text other : String) (field : Field) (s : List Char) :
    outcome other field s = (outcome text field s).mapError (Cause.toldOf other) := by
  rcases applies_or_fault text field s with ⟨pairs, result, ⟨blanks, hblanks, hrun⟩, happlies⟩ |
    ⟨good, rest, updated, cause, hrun, happlies, hfault⟩
  · rw [outcome_of_run hrun happlies, outcome_of_run hrun happlies, outcome_of_blanks hblanks,
      outcome_of_blanks hblanks]
    rfl
  · rw [outcome_of_run hrun happlies, outcome_of_run hrun happlies, outcome_of_fault hfault,
      outcome_of_fault (hfault.toldOf other)]
    rfl

variable {a b between : String}

theorem toList_append_append : (a ++ between ++ b).toList = a.toList ++ (between.toList ++ b.toList) := by
  rw [String.toList_append, String.toList_append, List.append_assoc]

theorem toList_ne_nil (h : a ≠ "") : a.toList ≠ [] := by
  intro hnil
  exact h (String.toList_eq_nil_iff.mp hnil)

/-- What stands behind a tag is applied to the field that the tag leaves. -/
theorem parse_append [Text.Repertoire] (h : parse field a = .ok result)
    (hbetween : IsBlanks between.toList) (hne : between ≠ "") :
    parse field (a ++ between ++ b) =
      (parse result b).mapError (Cause.toldOf (a ++ between ++ b)) := by
  obtain ⟨pairs, ⟨blanks, hblanks, hrun⟩, happlies⟩ := parse_eq_ok_iff.mp h
  rw [parse_eq, toList_append_append,
    outcome_of_run (hrun.append hbetween (toList_ne_nil hne) _) happlies, outcome_blanks hblanks,
    outcome_blanks hbetween, parse_eq, ← outcome_toldOf]

/-- A tag that is stopped by one of its pairs is stopped by it whatever stands behind. -/
theorem parse_append_error [Text.Repertoire] (h : parse field a = .error cause)
    (hcode : cause.report.code ≠ .invalidTag) (hbetween : IsBlanks between.toList)
    (hne : between ≠ "") : parse field (a ++ between ++ b) = .error cause := by
  obtain ⟨good, rest, updated, hrun, happlies, hfault⟩ := parse_eq_error_iff.mp h
  have hrun' := hrun.append hbetween (toList_ne_nil hne) b.toList
  rw [parse_eq, toList_append_append, outcome_of_run hrun' happlies]
  apply outcome_of_fault
  cases hfault with
  | form hmore hnone => exact absurd rfl hcode
  | literal hleads hvalue => exact .literal (hleads.append hbetween (toList_ne_nil hne) _) hvalue
  | value hleads hvalue happly =>
    exact .value (hleads.append hbetween (toList_ne_nil hne) _) hvalue happly

/-! ## Texts that are joined -/

theorem parse_pair [Text.Repertoire] (hformed : pair.IsFormed) (field : Field) :
    parse field (String.ofList pair.text) = applyPair field pair := by
  have hleads : Leads pair.text pair [] := by
    have hpair : Leads ([] ++ (pair.text ++ [])) pair [] :=
      .of (List.forall_mem_nil _) hformed rfl
    rwa [List.nil_append, List.append_nil] at hpair
  rw [parse_eq, String.toList_ofList, outcome_of_leads hleads]
  cases applyPair field pair with
  | error cause => rfl
  | ok updated => exact outcome_of_blanks (List.forall_mem_nil _)

theorem parse_empty [Text.Repertoire] (field : Field) : parse field "" = .ok field := by
  rw [parse_eq, outcome_of_blanks]
  exact List.forall_mem_nil _

theorem isBlanks_space : IsBlanks " ".toList := by
  intro c hc
  obtain rfl : c = ' ' := by simpa using hc
  decide

/-- Texts that are taken one after the other are taken together. -/
theorem parse_joined [Text.Repertoire] {texts : List String}
    (h : texts.foldlM parse field = .ok result) :
    parse field (" ".intercalate texts) = .ok result := by
  induction texts generalizing field with
  | nil =>
    obtain rfl := Except.ok.inj h
    exact parse_empty field
  | cons text rest ih =>
    rw [List.foldlM_cons] at h
    obtain ⟨updated, hupdated, hrest⟩ := Outcome.bind_eq_ok h
    cases rest with
    | nil =>
      obtain rfl := Except.ok.inj hrest
      rw [String.intercalate_singleton]
      exact hupdated
    | cons next rest =>
      rw [String.intercalate_cons_cons,
        parse_append hupdated isBlanks_space (by decide), ih hrest]
      rfl

theorem foldlM_parse_filter [Text.Repertoire] (texts : List String) (field : Field) :
    (texts.filter (· ≠ "")).foldlM parse field = texts.foldlM parse field := by
  induction texts generalizing field with
  | nil => rfl
  | cons text rest ih =>
    by_cases hempty : text = ""
    · subst hempty
      rw [List.filter_cons_of_neg (by simp), List.foldlM_cons, parse_empty, ih]
      rfl
    · rw [List.filter_cons_of_pos (by simpa using hempty), List.foldlM_cons, List.foldlM_cons]
      congr 1
      funext updated
      exact ih updated

theorem parse_joinTags [Text.Repertoire] {texts : List String}
    (h : texts.foldlM parse field = .ok result) :
    parse field (Registry.joinTags texts) = .ok result := by
  apply parse_joined
  rw [foldlM_parse_filter]
  exact h

end Tag

/-! ## The texts of a field -/

/-- The texts of the tags among extras, in their order. -/
def TypeExpr.tagTexts (extras : List Extra) : List String :=
  extras.filterMap fun
    | .tag text => some text
    | .value _ => none

/-- The texts that the tag of a field of a record is put together from: for a data record the text that
is declared for the field, and then those that its type is annotated with; for a model the latter. -/
inductive RecordClass.TagTexts (c : RecordClass) : RecordField → List String → Prop
  | data {decls : List FieldDecl} {decl : FieldDecl} {hint : TypeExpr} (h : c.dataFields = some decls)
      (hdecl : decl ∈ decls) :
      TagTexts c (Registry.dataField decl hint) (decl.tag :: TypeExpr.tagTexts hint.extras)
  | model {field : ModelField} (h : c.dataFields = none) (hfield : field ∈ c.modelFields) :
      TagTexts c (Registry.modelField field) (TypeExpr.tagTexts field.type.extras)

namespace RecordClass

variable {c : RecordClass} {f : RecordField} {texts : List String} {schema : Schema} {result : Field}

theorem exists_tagTexts {registry : Registry} {fields : List RecordField}
    (h : registry.fields c = .ok fields) (hf : f ∈ fields) : ∃ texts, c.TagTexts f texts := by
  cases hdata : c.dataFields with
  | none =>
    obtain rfl := Registry.fields_of_model hdata h
    obtain ⟨field, hfield, rfl⟩ := List.mem_map.mp hf
    exact ⟨_, .model hdata hfield⟩
  | some decls =>
    obtain ⟨hintOf, rfl⟩ := Registry.fields_of_data hdata h
    obtain ⟨decl, hdecl, rfl⟩ := List.mem_map.mp hf
    exact ⟨_, .data hdata (List.mem_of_mem_filter hdecl)⟩

theorem TagTexts.parse [Text.Repertoire] (h : c.TagTexts f texts) {field : Field}
    (htexts : texts.foldlM Tag.parse field = .ok result) : Tag.parse field f.tag = .ok result := by
  cases h with
  | @data decls decl hint h hdecl =>
    apply Tag.parse_joinTags
    rw [List.foldlM_cons] at htexts ⊢
    obtain ⟨updated, hupdated, htexts⟩ := Outcome.bind_eq_ok htexts
    have hjoined : Tag.parse updated (TypeExpr.tagText hint.extras) = .ok result :=
      Tag.parse_joined htexts
    rw [hupdated]
    show [TypeExpr.tagText hint.extras].foldlM Tag.parse updated = _
    rw [List.foldlM_cons, hjoined]
    rfl
  | model h hfield => exact Tag.parse_joined htexts

end RecordClass

namespace Tag

/-- Text behind a tag is applied to the field that the tag leaves, and is not looked at where a pair of
the tag cannot be applied.  So a field of a record becomes what the texts of its tag make one after the
other. -/
theorem applied_in_turn [Text.Repertoire] :
    (∀ (field : Field) (a between b : String), IsBlanks between.toList → between ≠ "" →
      (∀ result, parse field a = .ok result → parse field (a ++ between ++ b) =
        (parse result b).mapError (Cause.toldOf (a ++ between ++ b))) ∧
      ∀ cause, parse field a = .error cause → cause.report.code ≠ .invalidTag →
        parse field (a ++ between ++ b) = .error cause) ∧
    ∀ (registry : Registry) (c : RecordClass) (fields : List RecordField),
      registry.fields c = .ok fields → ∀ f ∈ fields, (∃ texts, c.TagTexts f texts) ∧
        ∀ texts, c.TagTexts f texts → ∀ derive schema result, derive f.hint = .ok schema →
          texts.foldlM parse schema.toField = .ok result →
          Derivation.ofField derive f = .ok (memberName f.name, result) := by
  constructor
  · intro field a between b hbetween hne
    exact ⟨fun result h => parse_append h hbetween hne,
      fun cause h hcode => parse_append_error h hcode hbetween hne⟩
  · intro registry c fields hfields f hf
    refine ⟨RecordClass.exists_tagTexts hfields hf, ?_⟩
    intro texts htexts derive schema result hderive hresult
    have hparse := htexts.parse hresult
    unfold Derivation.ofField
    rw [hderive]
    dsimp only
    rw [hparse]

/-! ### A field with three texts -/

def requiredText : Bool → String
  | true => "required:\"true\""
  | false => "required:\"false\""

theorem parse_requiredText [Text.Repertoire] (field : Field) (required : Bool) :
    parse field (requiredText required) = .ok { field with required } := by
  let pair : Pair := ⟨"required".toList, (if required then "true" else "false").toList⟩
  have hkey : pair.key.all isKeyChar = true := rfl
  have hbody : pair.body.all (fun c => decide (c ≠ '"')) = true := by
    cases required <;> rfl
  have hformed : pair.IsFormed := by
    refine ⟨nofun, List.all_eq_true.mp hkey, by cases required <;> nofun, ?_⟩
    exact fun c hc => of_decide_eq_true (List.all_eq_true.mp hbody c hc)
  have htext : requiredText required = String.ofList pair.text := by
    cases required <;> decide
  rw [htext, parse_pair hformed]
  cases required <;> rfl

/-- A field with a text of its own and two in its type, which are in force in this order. -/
def keyDecl : FieldDecl :=
  ⟨"AccessKey", .annotated (.scalar .str) [.tag (requiredText false), .tag (requiredText true)], none,
    requiredText false, true, false⟩

def vaultRef : RecordRef := ⟨0, .data, Registry.recordModule, "Vault", false⟩

def vaultClass : RecordClass := ⟨vaultRef, [vaultRef, .root], [keyDecl], some [keyDecl], []⟩

theorem applied_in_turn_key :
    parse (Schema.ofKind .string).toField (requiredText false ++ "\n" ++ requiredText true) =
        .ok { (Schema.ofKind .string).toField with required := true } ∧
      Derivation.ofField (fun _ => .ok (.ofKind .string)) (Registry.dataField keyDecl keyDecl.type) =
        .ok ("access_key", { (Schema.ofKind .string).toField with required := true }) := by
  constructor
  · have hbreak : IsBlanks "\n".toList := by
      intro c hc
      obtain rfl : c = '\n' := by simpa using hc
      decide
    rw [(applied_in_turn.1 _ _ "\n" _ hbreak (by decide)).1 _ (parse_requiredText _ _),
      parse_requiredText]
    rfl
  · have hname : memberName "AccessKey" = "access_key" := by decide +kernel
    have hfields : Registry.fields ⟨[vaultClass]⟩ vaultClass =
        .ok [Registry.dataField keyDecl keyDecl.type] := rfl
    obtain ⟨-, hfield⟩ := applied_in_turn.2 _ _ _ hfields _ List.mem_cons_self
    rw [← hname]
    refine hfield _ (.data rfl List.mem_cons_self) _ (Schema.ofKind .string) _ rfl ?_
    simp only [keyDecl, TypeExpr.tagTexts, TypeExpr.extras, List.filterMap_cons, List.filterMap_nil,
      List.foldlM_cons, List.foldlM_nil, parse_requiredText]
    rfl

end Tag

end Schematic
