import Schematic.Text.Literal

/-!
Literals that are written to be read back.  Five characters do not stand for themselves in a quoted
body: a break ends the literal, a quote closes it, a NUL is refused and a backslash starts an
escape.  Each of them has an escape, in which nothing but a backslash is special (`Spelling.inner`),
so that escaped texts have no breaks to be unified and their escapes are taken back one by one
(`read_escape`).

A character can be written by its number and by its name, too, and every repertoire has a say in what
is read then.  Numbers of one sort, surrogates or not, are read as different characters
(`codeChar?_inj`), and a name as the character that it is the name of (`unescape_named`).
-/

namespace Schematic
namespace Text
namespace Literal

/-- A character as it is written inside a literal. -/
def escapeChar (c : Char) : List Char :=
  if c = '\\' then ['\\', '\\']
  else if c = '"' then ['\\', 'x', '2', '2']
  else if c = '\n' then ['\\', 'n']
  else if c = '\r' then ['\\', 'r']
  else if c = '\x00' then ['\\', 'x', '0', '0']
  else [c]

/-- The body of a literal that denotes a text. -/
def escape (s : List Char) : List Char :=
  s.flatMap escapeChar

/-- A character that neither ends a literal nor makes it one that is refused. -/
def IsInner (c : Char) : Prop :=
  c ≠ '"' ∧ c ≠ '\n' ∧ c ≠ '\r' ∧ c ≠ '\x00'

/-- The ways in which characters are written. -/
inductive Spelling : Char → List Char → Prop
  | backslash : Spelling '\\' ['\\', '\\']
  | quote : Spelling '"' ['\\', 'x', '2', '2']
  | feed : Spelling '\n' ['\\', 'n']
  | carriageReturn : Spelling '\r' ['\\', 'r']
  | nul : Spelling '\x00' ['\\', 'x', '0', '0']
  | plain {c : Char} (hinner : IsInner c) (hne : c ≠ '\\') : Spelling c [c]

variable {c : Char} {s spelling : List Char}

theorem spelling_escapeChar (c : Char) : Spelling c (escapeChar c) := by
  unfold escapeChar
  by_cases hbackslash : c = '\\'
  · rw [if_pos hbackslash, hbackslash]
    exact .backslash
  rw [if_neg hbackslash]
  by_cases hquote : c = '"'
  · rw [if_pos hquote, hquote]
    exact .quote
  rw [if_neg hquote]
  by_cases hfeed : c = '\n'
  · rw [if_pos hfeed, hfeed]
    exact .feed
  rw [if_neg hfeed]
  by_cases hreturn : c = '\r'
  · rw [if_pos hreturn, hreturn]
    exact .carriageReturn
  rw [if_neg hreturn]
  by_cases hnul : c = '\x00'
  · rw [if_pos hnul, hnul]
    exact .nul
  · rw [if_neg hnul]
    exact .plain ⟨hquote, hfeed, hreturn, hnul⟩ hbackslash

theorem Spelling.inner (h : Spelling c spelling) : ∀ d ∈ spelling, IsInner d := by
  cases h with
  | plain hinner => exact List.forall_mem_singleton.mpr hinner
  | _ => simp [IsInner]

theorem Spelling.ne_nil (h : Spelling c spelling) : spelling ≠ [] := by
  cases h <;> exact List.cons_ne_nil _ _

theorem Spelling.unescape [Repertoire] (h : Spelling c spelling) (rest : List Char) :
    Literal.unescape (spelling ++ rest) = (Literal.unescape rest).map (c :: ·) := by
  have hhex : simpleEscape? 'x' = none ∧ octalValue? 'x' = none := by decide
  cases h with
  | backslash => rfl
  | feed => rfl
  | carriageReturn => rfl
  | quote =>
    have hchar : hexChar? ['2', '2'] = some '"' := rfl
    rw [unescape.eq_def]
    simp [hhex, hchar]
  | nul =>
    have hchar : hexChar? ['0', '0'] = some '\x00' := rfl
    rw [unescape.eq_def]
    simp [hhex, hchar]
  | plain hinner hne =>
    rw [List.singleton_append, unescape.eq_def]
    dsimp only
    rw [if_neg hinner.2.1, if_pos hne]

theorem isInner_of_mem_escape (h : c ∈ escape s) : IsInner c := by
  obtain ⟨d, -, hc⟩ := List.mem_flatMap.mp h
  exact (spelling_escapeChar d).inner c hc

theorem escape_ne_nil (h : s ≠ []) : escape s ≠ [] := by
  obtain ⟨c, rest, rfl⟩ := List.exists_cons_of_ne_nil h
  intro hnil
  exact (spelling_escapeChar c).ne_nil (List.append_eq_nil_iff.mp hnil).1

theorem unifyBreaks_eq (h : ∀ c ∈ s, c ≠ '\r') : unifyBreaks s = s := by
  induction s with
  | nil => rfl
  | cons c rest ih =>
    obtain ⟨hne, hrest⟩ := List.forall_mem_cons.mp h
    rw [unifyBreaks, ih hrest]
    · rintro more rfl
      exact absurd rfl hne
    · rintro rfl
      exact absurd rfl hne

theorem unescape_escape [Repertoire] (s : List Char) : unescape (escape s) = .ok s := by
  induction s with
  | nil => rfl
  | cons c rest ih =>
    show unescape (escapeChar c ++ escape rest) = _
    rw [(spelling_escapeChar c).unescape, ih]
    rfl

theorem read_escape [Repertoire] (s : List Char) : read (escape s) = .ok s := by
  have hnul : ¬ (escape s).contains '\x00' = true := by
    rw [List.contains_iff_mem]
    intro hmem
    exact (isInner_of_mem_escape hmem).2.2.2 rfl
  rw [read, if_neg hnul, unifyBreaks_eq fun c hc => (isInner_of_mem_escape hc).2.2.1]
  exact unescape_escape s

/-! ## Characters by number and by name -/

theorem isValidChar_of_code {n : Nat} (hsort : isSurrogate n = false) (hle : n ≤ 0x10FFFF) :
    n.isValidChar := by
  unfold isSurrogate at hsort
  rw [Bool.and_eq_false_iff, decide_eq_false_iff_not, decide_eq_false_iff_not] at hsort
  show n < 0xD800 ∨ (0xDFFF < n ∧ n < 0x110000)
  omega

theorem codeChar?_inj [Repertoire] {m n : Nat} (hm : codeChar? m = some c)
    (hn : codeChar? n = some c) (hsort : isSurrogate m = isSurrogate n) : m = n := by
  unfold codeChar? at hm hn
  rw [← hsort] at hn
  cases hsurrogate : isSurrogate m with
  | true =>
    rw [if_pos hsurrogate] at hm hn
    exact Repertoire.surrogate_inj hsurrogate (hsort ▸ hsurrogate)
      (Option.some.inj (hm.trans hn.symm))
  | false =>
    rw [hsurrogate, if_neg Bool.false_ne_true] at hm hn
    obtain ⟨hmle, hmchar⟩ := Option.ite_none_right_eq_some.mp hm
    obtain ⟨hnle, hnchar⟩ := Option.ite_none_right_eq_some.mp hn
    have hcode := congrArg Char.toNat (Option.some.inj (hmchar.trans hnchar.symm))
    rwa [Repertoire.toNat_ofNat (isValidChar_of_code hsurrogate hmle),
      Repertoire.toNat_ofNat (isValidChar_of_code (hsort ▸ hsurrogate) hnle)] at hcode

/-- A name is read up to the brace that closes it. -/
theorem unescapeName_eq [Repertoire] {more : List Char} (hmore : ∀ c ∈ more, c ≠ '\n' ∧ c ≠ '}')
    (name rest : List Char) :
    unescapeName name (more ++ '}' :: rest) = unescapeName (name ++ more) ('}' :: rest) := by
  induction more generalizing name with
  | nil => rw [List.nil_append, List.append_nil]
  | cons c more ih =>
    obtain ⟨⟨hbreak, hbrace⟩, hmore⟩ := List.forall_mem_cons.mp hmore
    rw [List.cons_append, unescapeName, if_neg hbreak, if_neg hbrace, ih hmore, List.append_assoc,
      List.singleton_append]

/-- An escape by name is the character of the name, and malformed if no character has it. -/
theorem unescape_named [Repertoire] {name : List Char} (hname : ∀ c ∈ name, c ≠ '\n' ∧ c ≠ '}')
    (rest : List Char) :
    unescape ('\\' :: 'N' :: '{' :: (name ++ '}' :: rest)) =
      match Repertoire.named? name with
      | some c => (unescape rest).map (c :: ·)
      | none => .error .malformed := by
  have hopen : unescape ('\\' :: 'N' :: '{' :: (name ++ '}' :: rest)) =
      unescapeName [] (name ++ '}' :: rest) := by
    have hescape : simpleEscape? 'N' = none ∧ octalValue? 'N' = none := by decide
    rw [unescape.eq_def]
    simp [hescape]
  rw [hopen, unescapeName_eq hname, List.nil_append]
  rfl

end Literal
end Text
end Schematic
