import Mathlib.Data.List.TakeWhile
import Schematic.Proofs.Outcome
import Schematic.Tag

/-!
The grammar of tags, apart from the reader.  A pair leads a text if it stands at its front, after white
space, and ends there; a run of pairs is a chain of these steps, and a tag is a run with nothing but
white space behind it.  The reader goes through every run of pairs that can be applied and carries the field
along (`outcome_of_run`), so that what it makes of a text is decided by what is left after the longest
such run: nothing but white space, or the first fault (`applies_or_fault`).
-/

namespace Schematic
namespace Tag

/-! ## Pairs -/

/-- White space, or nothing. -/
def IsBlanks (s : List Char) : Prop :=
  ∀ c ∈ s, Text.isBlank c = true

def Pair.text (pair : Pair) : List Char :=
  pair.key ++ ':' :: '"' :: (pair.body ++ ['"'])

/-- A pair that has a text: neither its key nor its body is empty, the key has no other characters than
`a` to `z`, and the body has no quote. -/
structure Pair.IsFormed (pair : Pair) : Prop where
  key_ne : pair.key ≠ []
  key : ∀ c ∈ pair.key, isKeyChar c = true
  body_ne : pair.body ≠ []
  body : ∀ c ∈ pair.body, c ≠ '"'

/-- A pair stands at the front of a text, after white space, and white space or the end of the text
follows it. -/
inductive Leads : List Char → Pair → List Char → Prop
  | of {blanks rest : List Char} {pair : Pair} (hblanks : IsBlanks blanks) (hformed : pair.IsFormed)
      (hends : endsPair rest = true) : Leads (blanks ++ (pair.text ++ rest)) pair rest

/-- A text starts with pairs, each of them ended; the rest follows them. -/
inductive Run : List Char → List Pair → List Char → Prop
  | none (s : List Char) : Run s [] s
  | next {s more rest : List Char} {pair : Pair} {pairs : List Pair} (h : Leads s pair more)
      (hrest : Run more pairs rest) : Run s (pair :: pairs) rest

/-- A text is a sequence of pairs. -/
def IsTag (s : List Char) (pairs : List Pair) : Prop :=
  ∃ blanks, IsBlanks blanks ∧ Run s pairs blanks

variable {s t rest more : List Char} {pair : Pair} {good : List Pair}

theorem isBlanks_append : IsBlanks (s ++ t) ↔ IsBlanks s ∧ IsBlanks t :=
  List.forall_mem_append

theorem takeWhile_append_of_stop {p : Char → Bool} {ahead : List Char} {c : Char}
    (h : ∀ c ∈ ahead, p c = true) (hstop : p c = false) (behind : List Char) :
    (ahead ++ c :: behind).takeWhile p = ahead ∧ (ahead ++ c :: behind).dropWhile p = c :: behind := by
  rw [List.takeWhile_append_of_pos h, List.dropWhile_append_of_pos h]
  simp [hstop]

/-- A key ends at its colon and a body at its quote. -/
theorem takePair?_text (hformed : pair.IsFormed) (hends : endsPair rest = true) :
    takePair? (pair.text ++ rest) = some (pair, rest) := by
  obtain ⟨key, body⟩ := pair
  have hbody : ∀ c ∈ body, (c != '"') = true := by
    intro c hc
    simpa using hformed.body c hc
  obtain ⟨hkeyTaken, hkeyLeft⟩ := takeWhile_append_of_stop (c := ':') hformed.key (by decide)
    ('"' :: (body ++ '"' :: rest))
  obtain ⟨hbodyTaken, hbodyLeft⟩ := takeWhile_append_of_stop (c := '"') hbody (by decide) rest
  have htext : Pair.text ⟨key, body⟩ ++ rest = key ++ ':' :: '"' :: (body ++ '"' :: rest) := by
    simp [Pair.text]
  obtain ⟨k, key, rfl⟩ := List.exists_cons_of_ne_nil hformed.key_ne
  obtain ⟨b, body, rfl⟩ := List.exists_cons_of_ne_nil hformed.body_ne
  rw [htext, takePair?]
  split
  next k' key' more hkey hmore =>
    obtain ⟨rfl, rfl⟩ := List.cons.inj (hkeyTaken.symm.trans hkey)
    obtain rfl := (List.cons.inj (List.cons.inj (hkeyLeft.symm.trans hmore)).2).2
    split
    next b' body' c rest' hbody' hrest =>
      obtain ⟨rfl, rfl⟩ := List.cons.inj (hbodyTaken.symm.trans hbody')
      obtain ⟨rfl, rfl⟩ := List.cons.inj (hbodyLeft.symm.trans hrest)
      exact if_pos hends
    next hother => exact (hother _ _ _ _ hbodyTaken hbodyLeft).elim
  next hother => exact (hother _ _ _ hkeyTaken hkeyLeft).elim

theorem takePair?_eq_some (h : takePair? s = some (pair, rest)) :
    s = pair.text ++ rest ∧ pair.IsFormed ∧ endsPair rest = true := by
  unfold takePair? at h
  split at h
  next k key more hkey hmore =>
    split at h
    next b body c rest' hbody hrest =>
      split at h
      next hends =>
        obtain ⟨rfl, rfl⟩ := Prod.mk.inj (Option.some.inj h)
        have hs := s.takeWhile_append_dropWhile (p := isKeyChar)
        have hmore' := more.takeWhile_append_dropWhile (p := (· != '"'))
        have hquote : c = '"' := by
          have hstop := List.head?_dropWhile_not (fun c => c != '"') more
          rw [hrest] at hstop
          simpa using hstop
        rw [hkey, hmore] at hs
        rw [hbody, hrest, hquote] at hmore'
        refine ⟨by simp [Pair.text, ← hs, ← hmore'],
          ⟨List.cons_ne_nil _ _, ?_, List.cons_ne_nil _ _, ?_⟩, hends⟩
        · intro c hc
          rw [← hkey] at hc
          exact List.mem_takeWhile_imp hc
        · intro c hc
          rw [← hbody] at hc
          simpa using List.mem_takeWhile_imp hc
      next => cases h
    next => cases h
  next => cases h

/-! ## Runs -/

theorem stripStart_blanks (h : IsBlanks s) (t : List Char) :
    Text.stripStart (s ++ t) = Text.stripStart t :=
  List.dropWhile_append_of_pos h

theorem isBlank_of_isKeyChar {c : Char} (h : isKeyChar c = true) : Text.isBlank c = false := by
  have hrange : 97 ≤ c.toNat ∧ c.toNat ≤ 122 := by
    have hbounds : 'a' ≤ c ∧ c ≤ 'z' := by
      simpa [isKeyChar] using h
    exact hbounds
  unfold Text.isBlank Text.isSpace
  simp
  omega

theorem stripStart_text (hformed : pair.IsFormed) (t : List Char) :
    Text.stripStart (pair.text ++ t) = pair.text ++ t := by
  obtain ⟨key, body⟩ := pair
  obtain ⟨k, key, rfl⟩ := List.exists_cons_of_ne_nil hformed.key_ne
  have hblank := isBlank_of_isKeyChar (hformed.key k List.mem_cons_self)
  simp [Pair.text, Text.stripStart, hblank]

theorem leads_iff : takePair? (Text.stripStart s) = some (pair, rest) ↔ Leads s pair rest := by
  constructor
  · intro h
    obtain ⟨htext, hformed, hends⟩ := takePair?_eq_some h
    have hs := s.takeWhile_append_dropWhile (p := Text.isBlank)
    rw [show s.dropWhile Text.isBlank = pair.text ++ rest from htext] at hs
    rw [← hs]
    exact .of (fun c hc => List.mem_takeWhile_imp hc) hformed hends
  · rintro ⟨hblanks, hformed, hends⟩
    rw [stripStart_blanks hblanks, stripStart_text hformed, takePair?_text hformed hends]

theorem isEmpty_stripStart_iff : (Text.stripStart s).isEmpty = true ↔ IsBlanks s := by
  rw [List.isEmpty_iff]
  exact List.dropWhile_eq_nil_iff

theorem pairs_of_leads (h : Leads s pair rest) :
    pairs s = (pair :: (pairs rest).1, (pairs rest).2) := by
  rw [pairs]
  split
  next hnone => rw [leads_iff.mpr h] at hnone; cases hnone
  next pair' rest' hsome =>
    obtain ⟨rfl, rfl⟩ := Prod.mk.inj (Option.some.inj ((leads_iff.mpr h).symm.trans hsome))
    rfl

theorem pairs_of_none (h : ∀ pair rest, ¬ Leads s pair rest) :
    pairs s = ([], (Text.stripStart s).isEmpty) := by
  rw [pairs]
  split
  next => rfl
  next pair rest hsome => exact absurd (leads_iff.mp hsome) (h pair rest)

theorem pairs_of_blanks (h : IsBlanks s) : pairs s = ([], true) := by
  rw [pairs_of_none]
  · rw [isEmpty_stripStart_iff.mpr h]
  · rintro _ _ ⟨-, hformed, -⟩
    obtain ⟨k, key, hkey⟩ := List.exists_cons_of_ne_nil hformed.key_ne
    have hblank := isBlank_of_isKeyChar (hformed.key k (by simp [hkey]))
    rw [isBlanks_append, isBlanks_append] at h
    have hk := h.2.1 k (by simp [Pair.text, hkey])
    rw [hblank] at hk
    cases hk

/-! ## Application -/

/-- The pairs are applied to a field one after the other, each with the value of its literal. -/
inductive Applies [Text.Repertoire] : Field → List Pair → Field → Prop
  | none (field : Field) : Applies field [] field
  | next {field updated result : Field} {pair : Pair} {pairs : List Pair} {value : List Char}
      (hvalue : Text.Literal.read pair.body = .ok value)
      (happly : apply field (String.ofList pair.key) (String.ofList value) = .ok updated)
      (hrest : Applies updated pairs result) : Applies field (pair :: pairs) result

/-- What stops a tag, of the given text, at the rest of it: the rest is no white space and does not
start with a pair, or it does and the pair cannot be applied to the field. -/
inductive Fault [Text.Repertoire] (text : String) (field : Field) (rest : List Char) : Cause → Prop
  | form (hmore : ¬ IsBlanks rest) (hnone : ∀ pair more, ¬ Leads rest pair more) :
      Fault text field rest (.malformedTag text)
  | literal {pair : Pair} {more : List Char} {fault : Text.Literal.Error} (h : Leads rest pair more)
      (hvalue : Text.Literal.read pair.body = .error fault) :
      Fault text field rest (.malformedTagValue pair.quoted (fault = .nul))
  | value {pair : Pair} {more value : List Char} {cause : Cause} (h : Leads rest pair more)
      (hvalue : Text.Literal.read pair.body = .ok value)
      (happly : apply field (String.ofList pair.key) (String.ofList value) = .error cause) :
      Fault text field rest cause

/-- What the rest of a tag makes of a field. -/
def outcome [Text.Repertoire] (text : String) (field : Field) (rest : List Char) :
    Except Cause Field := do
  let field ← (pairs rest).1.foldlM applyPair field
  if (pairs rest).2 then .ok field else .error (.malformedTag text)

variable {text : String} {field updated result : Field} {cause : Cause}

theorem parse_eq [Text.Repertoire] (field : Field) (text : String) :
    parse field text = outcome text field text.toList :=
  rfl

theorem applyPair_of_value [Text.Repertoire] {value : List Char}
    (h : Text.Literal.read pair.body = .ok value) :
    applyPair field pair = apply field (String.ofList pair.key) (String.ofList value) := by
  rw [applyPair, h]

theorem outcome_of_leads [Text.Repertoire] (h : Leads s pair rest) :
    outcome text field s = applyPair field pair >>= fun updated => outcome text updated rest := by
  unfold outcome
  rw [pairs_of_leads h, List.foldlM_cons, bind_assoc]

theorem outcome_of_blanks [Text.Repertoire] (h : IsBlanks s) :
    outcome text field s = .ok field := by
  rw [outcome, pairs_of_blanks h]
  rfl

theorem outcome_of_run [Text.Repertoire] (hrun : Run s good rest)
    (happlies : Applies field good updated) :
    outcome text field s = outcome text updated rest := by
  induction hrun generalizing field with
  | none s =>
    cases happlies
    rfl
  | next h _ ih =>
    cases happlies with
    | next hvalue happly hrest =>
      rw [outcome_of_leads h, applyPair_of_value hvalue, happly]
      exact ih hrest

theorem outcome_of_fault [Text.Repertoire] (h : Fault text field s cause) :
    outcome text field s = .error cause := by
  cases h with
  | form hmore hnone =>
    have hleft : (Text.stripStart s).isEmpty = false := by
      rw [← Bool.not_eq_true, isEmpty_stripStart_iff]
      exact hmore
    rw [outcome, pairs_of_none hnone, hleft]
    rfl
  | literal h hvalue =>
    rw [outcome_of_leads h, applyPair, hvalue]
    rfl
  | value h hvalue happly =>
    rw [outcome_of_leads h, applyPair_of_value hvalue, happly]
    rfl

/-- Every text is a tag whose pairs can be applied, or has a first fault. -/
theorem applies_or_fault [Text.Repertoire] (text : String) (field : Field) (s : List Char) :
    (∃ pairs result, IsTag s pairs ∧ Applies field pairs result) ∨
      ∃ good rest updated cause, Run s good rest ∧ Applies field good updated ∧
        Fault text updated rest cause := by
  fun_induction pairs s generalizing field with
  | case1 s hnone =>
    by_cases hblanks : IsBlanks s
    · exact .inl ⟨[], field, ⟨s, hblanks, .none s⟩, .none field⟩
    · refine .inr ⟨[], s, field, _, .none s, .none field, .form hblanks ?_⟩
      intro pair more h
      rw [leads_iff.mpr h] at hnone
      cases hnone
  | case2 s pair rest hsome found complete hpairs ih =>
    have hleads := leads_iff.mp hsome
    cases hvalue : Text.Literal.read pair.body with
    | error fault => exact .inr ⟨[], s, field, _, .none s, .none field, .literal hleads hvalue⟩
    | ok value =>
      cases happly : apply field (String.ofList pair.key) (String.ofList value) with
      | error cause => exact .inr ⟨[], s, field, _, .none s, .none field, .value hleads hvalue happly⟩
      | ok updated =>
        rcases ih updated with ⟨pairs, result, ⟨blanks, hblanks, hrun⟩, happlies⟩ |
          ⟨good, last, stopped, cause, hrun, happlies, hfault⟩
        · exact .inl ⟨pair :: pairs, result, ⟨blanks, hblanks, .next hleads hrun⟩,
            .next hvalue happly happlies⟩
        · exact .inr ⟨pair :: good, last, stopped, cause, .next hleads hrun,
            .next hvalue happly happlies, hfault⟩

theorem parse_eq_ok_iff [Text.Repertoire] : parse field text = .ok result ↔
    ∃ pairs, IsTag text.toList pairs ∧ Applies field pairs result := by
  have hsound : ∀ {pairs found}, IsTag text.toList pairs → Applies field pairs found →
      parse field text = .ok found := by
    rintro pairs found ⟨blanks, hblanks, hrun⟩ happlies
    rw [parse_eq, outcome_of_run hrun happlies, outcome_of_blanks hblanks]
  constructor
  · intro h
    rcases applies_or_fault text field text.toList with ⟨pairs, found, htag, happlies⟩ |
      ⟨good, rest, updated, cause, hrun, happlies, hfault⟩
    · obtain rfl := Except.ok.inj ((hsound htag happlies).symm.trans h)
      exact ⟨pairs, htag, happlies⟩
    · rw [parse_eq, outcome_of_run hrun happlies, outcome_of_fault hfault] at h
      cases h
  · rintro ⟨pairs, htag, happlies⟩
    exact hsound htag happlies

theorem parse_eq_error_iff [Text.Repertoire] :
    parse field text = .error cause ↔ ∃ good rest updated,
    Run text.toList good rest ∧ Applies field good updated ∧ Fault text updated rest cause := by
  constructor
  · intro h
    rcases applies_or_fault text field text.toList with ⟨pairs, found, htag, happlies⟩ |
      ⟨good, rest, updated, found, hrun, happlies, hfault⟩
    · rw [parse_eq_ok_iff.mpr ⟨pairs, htag, happlies⟩] at h
      cases h
    · rw [parse_eq, outcome_of_run hrun happlies, outcome_of_fault hfault] at h
      obtain rfl := Except.error.inj h
      exact ⟨good, rest, updated, hrun, happlies, hfault⟩
  · rintro ⟨good, rest, updated, hrun, happlies, hfault⟩
    rw [parse_eq, outcome_of_run hrun happlies, outcome_of_fault hfault]

/-- A tag is a sequence of pairs separated by white space, applied from left to right; of any other
text the leftmost fault is reported, a fault of form with the whole text and a literal with its
quotes. -/
theorem parsed_exactly [Text.Repertoire] (field : Field) (text : String) :
    (∀ result, parse field text = .ok result ↔
      ∃ pairs, IsTag text.toList pairs ∧ Applies field pairs result) ∧
    (∀ cause, parse field text = .error cause ↔ ∃ good rest updated,
      Run text.toList good rest ∧ Applies field good updated ∧ Fault text updated rest cause) ∧
    ((Cause.malformedTag text).report.code = .invalidTag ∧
      (Cause.malformedTag text).report.metadata = [("tag", .str text)]) ∧
    ∀ (pair : Pair) (hasNul : Bool),
      (Cause.malformedTagValue pair.quoted hasNul).report.code = .invalidTagValue ∧
      (Cause.malformedTagValue pair.quoted hasNul).report.metadata = [("value", .str pair.quoted)] :=
  ⟨fun _ => parse_eq_ok_iff, fun _ => parse_eq_error_iff, ⟨rfl, rfl⟩, fun _ _ => ⟨rfl, rfl⟩⟩

end Tag
end Schematic
