import Mathlib.Data.List.Basic
import Mathlib.Data.Nat.Basic
import Schematic.MemberName

/-!
Where the underscores of a member name stand.  A name is cut while it is scanned, with one
bit of memory: whether the stretch so far is a capitalised word.  The cuts have a description
by position alone, which looks at the letters around a position and back to the capital
before it.
-/

namespace Schematic
namespace Text

theorem forall_ascii {p : Char → Prop} (h : ∀ n : Fin 128, p (Char.ofNat n)) {c : Char}
    (hc : c.toNat < 128) : p c := by
  have := h ⟨c.toNat, hc⟩
  rwa [show Char.ofNat ((⟨c.toNat, hc⟩ : Fin 128) : Nat) = c from Char.ofNat_toNat c] at this

theorem lowercaseRuns_eq :
    lowercaseRuns.toList = (0x41, 0x5A, 0x1, 0x61) :: lowercaseRuns.toList.tail ∧
      ∀ run ∈ lowercaseRuns.toList.tail, 128 ≤ run.1 := by
  decide +kernel

/-- Of the letters of ASCII, the capitals have another lowercase form. -/
theorem simpleLower_ascii {c : Char} (hc : c.toNat < 128) : simpleLower c = c.toLower := by
  obtain ⟨hruns, hlater⟩ := lowercaseRuns_eq
  unfold simpleLower
  generalize lowercaseRuns = runs at hruns hlater ⊢
  rw [← Array.find?_toList, hruns]
  by_cases hcapital : 0x41 ≤ c.toNat ∧ c.toNat ≤ 0x5A
  · rw [List.find?_cons_of_pos (by simp [hcapital, Nat.mod_one])]
    exact forall_ascii (p := fun c => 0x41 ≤ c.toNat ∧ c.toNat ≤ 0x5A →
      Char.ofNat (0x61 + (c.toNat - 0x41)) = c.toLower) (by decide +kernel) hc hcapital
  · rw [List.find?_cons_of_neg (by simp; omega), List.find?_eq_none.mpr ?_]
    · exact forall_ascii (p := fun c => ¬ (0x41 ≤ c.toNat ∧ c.toNat ≤ 0x5A) → c = c.toLower)
        (by decide +kernel) hc hcapital
    · intro run hrun hmatch
      simp only [Bool.and_eq_true, decide_eq_true_eq] at hmatch
      exact absurd (hlater run hrun) (by omega)

theorem lowerChar_ascii {c : Char} (hc : c.toNat < 128) (before after : List Char) :
    lowerChar before c after = [c.toLower] := by
  have hsigma : c ≠ 'Σ' := by rintro rfl; exact absurd hc (by decide)
  have hdotted : c ≠ 'İ' := by rintro rfl; exact absurd hc (by decide)
  rw [lowerChar, if_neg hsigma, if_neg hdotted, simpleLower_ascii hc]

theorem lower_ascii {s : List Char} (h : ∀ c ∈ s, c.toNat < 128) :
    lower s = s.map Char.toLower := by
  suffices hfrom : ∀ before, lowerFrom before s = s.map Char.toLower from hfrom []
  induction s with
  | nil => intro before; rfl
  | cons c rest ih =>
    intro before
    rw [lowerFrom, lowerChar_ascii (h c (by simp)), ih fun d hd => h d (by simp [hd])]
    rfl

end Text

namespace MemberName

variable {name : List Char}

/-- The letters before a position are a capital and then small letters, at least one. -/
def FollowsWord (name : List Char) (i : Nat) : Prop :=
  ∃ j < i - 1, name[j]?.any isCapital = true ∧ ∀ k < i, j < k → name[k]?.any isSmall = true

/-- An underscore stands before a position inside the name where a capitalised word starts
and where one ends. -/
def IsCut (name : List Char) (i : Nat) : Prop :=
  0 < i ∧ i < name.length ∧
    (name[i]?.any isCapital = true ∧ name[i + 1]?.any isSmall = true ∨
      ¬ name[i]?.any isSmall = true ∧ FollowsWord name i)

instance (name : List Char) (i : Nat) : Decidable (FollowsWord name i) :=
  inferInstanceAs (Decidable (∃ j < i - 1, _ ∧ ∀ k < i, j < k → _))

instance (name : List Char) (i : Nat) : Decidable (IsCut name i) :=
  inferInstanceAs (Decidable (_ ∧ _ ∧ (_ ∨ _)))

/-- The characters of a name in order, with an underscore before each cut. -/
def spread (name : List Char) : List Char :=
  name.zipIdx.flatMap fun p => if IsCut name p.2 then ['_', p.1] else [p.1]

/-- What the scan remembers at a position: a capitalised word has started, and nothing but
small letters followed. -/
def InWord (name : List Char) (i : Nat) : Prop :=
  ∃ j < i, name[j]?.any isCapital = true ∧ name[j + 1]?.any isSmall = true ∧
    ∀ k < i, j < k → name[k]?.any isSmall = true

theorem not_inWord_zero (name : List Char) : ¬ InWord name 0 := by
  rintro ⟨j, hj, -⟩
  exact Nat.not_lt_zero j hj

theorem startsWord_drop (name : List Char) (i : Nat) :
    startsWord (name.drop i) = true ↔
      name[i]?.any isCapital = true ∧ name[i + 1]?.any isSmall = true := by
  rw [← List.head?_drop, ← List.head?_drop, ← List.tail_drop]
  cases hdrop : name.drop i with
  | nil => simp [startsWord]
  | cons c rest =>
    cases rest with
    | nil => simp [startsWord]
    | cons d rest => simp [startsWord]

theorem followsWord_iff {i : Nat} (hsmall : ¬ name[i]?.any isSmall = true) :
    FollowsWord name i ↔ InWord name i := by
  constructor
  · rintro ⟨j, hj, hcapital, hbetween⟩
    exact ⟨j, by omega, hcapital, hbetween (j + 1) (by omega) (by omega), hbetween⟩
  · rintro ⟨j, hj, hcapital, hnext, hbetween⟩
    have hne : j + 1 ≠ i := by rintro rfl; exact hsmall hnext
    exact ⟨j, by omega, hcapital, hbetween⟩

/- One step of the scan, by the three ways it can go. -/

section Step

variable {i : Nat}

theorem inWord_succ_of_start (hcapital : name[i]?.any isCapital = true)
    (hnext : name[i + 1]?.any isSmall = true) : InWord name (i + 1) :=
  ⟨i, by omega, hcapital, hnext, fun k hk hik => absurd hk (by omega)⟩

theorem inWord_succ_iff
    (hstart : ¬ (name[i]?.any isCapital = true ∧ name[i + 1]?.any isSmall = true)) :
    InWord name (i + 1) ↔ InWord name i ∧ name[i]?.any isSmall = true := by
  constructor
  · rintro ⟨j, hj, hcapital, hnext, hbetween⟩
    have hne : j ≠ i := by rintro rfl; exact hstart ⟨hcapital, hnext⟩
    exact ⟨⟨j, by omega, hcapital, hnext, fun k hk hjk => hbetween k (by omega) hjk⟩,
      hbetween i (by omega) (by omega)⟩
  · rintro ⟨⟨j, hj, hcapital, hnext, hbetween⟩, hsmall⟩
    refine ⟨j, by omega, hcapital, hnext, fun k hk hjk => ?_⟩
    rcases Nat.lt_succ_iff_lt_or_eq.mp hk with hlt | rfl
    · exact hbetween k hlt hjk
    · exact hsmall

end Step

/-- The stretch up to the next cut and the pieces after it, with an underscore before each
piece, are the rest of the name spread out, when the scan remembers rightly whether it is in
a word. -/
theorem cut_eq_spread (rest : List Char) : ∀ {i : Nat} {inWord : Bool}, 0 < i →
    name.drop i = rest → (inWord = true ↔ InWord name i) →
    (cut inWord rest).1 ++ (cut inWord rest).2.flatMap ('_' :: ·) =
      (rest.zipIdx i).flatMap fun p => if IsCut name p.2 then ['_', p.1] else [p.1] := by
  induction rest with
  | nil => intro i inWord _ _ _; rfl
  | cons c rest ih =>
    intro i inWord hi hdrop hinWord
    have hc : name[i]? = some c := by rw [← List.head?_drop, hdrop]; rfl
    have hlength : i < name.length := (List.getElem?_eq_some_iff.mp hc).1
    have hnext : name.drop (i + 1) = rest := by rw [← List.tail_drop, hdrop]; rfl
    have hsmall : name[i]?.any isSmall = isSmall c := by rw [hc]; rfl
    have hstart := startsWord_drop name i
    rw [hdrop] at hstart
    rw [List.zipIdx_cons, List.flatMap_cons, cut]
    split
    next hword =>
      obtain ⟨hcapital, hsecond⟩ := hstart.mp hword
      have hcut : IsCut name i := ⟨hi, hlength, .inl ⟨hcapital, hsecond⟩⟩
      have hinside : true = true ↔ InWord name (i + 1) :=
        iff_of_true rfl (inWord_succ_of_start hcapital hsecond)
      rw [if_pos hcut, ← ih (by omega) hnext hinside]
      rfl
    next hword =>
      have hno := fun h => hword (hstart.mpr h)
      split
      next hend =>
        obtain ⟨rfl, hnot⟩ : inWord = true ∧ isSmall c = false := by simpa using hend
        have hlarge : ¬ name[i]?.any isSmall = true := by simp [hsmall, hnot]
        have hcut : IsCut name i :=
          ⟨hi, hlength, .inr ⟨hlarge, (followsWord_iff hlarge).mpr (hinWord.mp rfl)⟩⟩
        have houtside : false = true ↔ InWord name (i + 1) :=
          iff_of_false Bool.false_ne_true fun h => hlarge ((inWord_succ_iff hno).mp h).2
        rw [if_pos hcut, ← ih (by omega) hnext houtside]
        rfl
      next hend =>
        have hcut : ¬ IsCut name i := by
          rintro ⟨-, -, hword | ⟨hlarge, hfollows⟩⟩
          · exact hno hword
          · have hin := hinWord.mpr ((followsWord_iff hlarge).mp hfollows)
            exact hend (by simpa [hin, hsmall] using hlarge)
        have hstays : inWord = true ↔ InWord name (i + 1) := by
          rw [inWord_succ_iff hno, hsmall, ← hinWord]
          refine ⟨fun hin => ⟨hin, ?_⟩, And.left⟩
          simpa [hin] using hend
        rw [if_neg hcut, ← ih (by omega) hnext hstays]
        rfl

theorem intercalate_cons (x : List Char) (xs : List (List Char)) :
    ['_'].intercalate (x :: xs) = x ++ xs.flatMap ('_' :: ·) := by
  induction xs generalizing x with
  | nil => simp
  | cons y ys ih =>
    rw [List.intercalate_cons_cons, ih, List.flatMap_cons, List.append_assoc]
    rfl

theorem pieces_cons (c : Char) (rest : List Char) :
    pieces (c :: rest) = (c :: (cut (startsWord (c :: rest)) rest).1) ::
      (cut (startsWord (c :: rest)) rest).2 := by
  rw [pieces, cut]
  cases startsWord (c :: rest) <;> rfl

/-- The pieces of a name joined by underscores are the name spread out. -/
theorem intercalate_pieces (name : List Char) :
    ['_'].intercalate (pieces name) = spread name := by
  cases name with
  | nil => rfl
  | cons c rest =>
    have hinWord : startsWord (c :: rest) = true ↔ InWord (c :: rest) 1 := by
      rw [← List.drop_zero (l := c :: rest), startsWord_drop]
      refine ⟨fun h => inWord_succ_of_start h.1 h.2, fun h => ?_⟩
      by_contra hno
      exact not_inWord_zero _ ((inWord_succ_iff hno).mp h).1
    have hcut : ¬ IsCut (c :: rest) 0 := fun h => Nat.lt_irrefl 0 h.1
    rw [pieces_cons, intercalate_cons, spread, List.zipIdx_cons, List.flatMap_cons, if_neg hcut,
      ← cut_eq_spread rest (by omega) rfl hinWord]
    rfl

theorem mem_spread {c : Char} (h : c ∈ spread name) : c ∈ name ∨ c = '_' := by
  obtain ⟨p, hp, hc⟩ := List.mem_flatMap.mp h
  have hmem : p.1 ∈ name := List.fst_mem_of_mem_zipIdx hp
  split at hc
  · rcases List.mem_pair.mp hc with rfl | rfl
    · exact .inr rfl
    · exact .inl hmem
  · exact .inl (List.mem_singleton.mp hc ▸ hmem)

theorem mem_of_mem_pieces {piece : List Char} {c : Char} (hpiece : piece ∈ pieces name)
    (hc : c ∈ piece) : c ∈ name ∨ c = '_' := by
  refine mem_spread ?_
  rw [← intercalate_pieces]
  revert hpiece
  cases pieces name with
  | nil => intro h; exact absurd h List.not_mem_nil
  | cons first rest =>
    intro h
    rw [intercalate_cons, List.mem_append, List.mem_flatMap]
    rcases List.mem_cons.mp h with rfl | h
    · exact .inl hc
    · exact .inr ⟨piece, h, List.mem_cons_of_mem _ hc⟩

theorem intercalate_toLower (xs : List (List Char)) :
    ['_'].intercalate (xs.map (List.map Char.toLower)) =
      (['_'].intercalate xs).map Char.toLower := by
  cases xs with
  | nil => rfl
  | cons x xs =>
    rw [List.map_cons, intercalate_cons, intercalate_cons, List.map_append, List.map_flatMap,
      List.flatMap_map]
    rfl

section Ascii

variable (hascii : ∀ c ∈ name, c.toNat < 128)
include hascii

theorem ofChars_ascii : ofChars name = (spread name).map Char.toLower := by
  have hlower : (pieces name).map Text.lower = (pieces name).map (List.map Char.toLower) := by
    refine List.map_congr_left fun piece hpiece => Text.lower_ascii fun c hc => ?_
    rcases mem_of_mem_pieces hpiece hc with hmem | rfl
    · exact hascii c hmem
    · decide
  rw [ofChars, hlower, intercalate_toLower, intercalate_pieces]

theorem ascii_of_mem_spread : ∀ c ∈ spread name, c.toNat < 128 := by
  intro c hc
  rcases mem_spread hc with hmem | rfl
  · exact hascii c hmem
  · decide

theorem ascii_ofChars : ∀ c ∈ ofChars name, c.toNat < 128 := by
  intro c hc
  rw [ofChars_ascii hascii] at hc
  obtain ⟨d, hd, rfl⟩ := List.mem_map.mp hc
  exact Text.forall_ascii (p := fun d => d.toLower.toNat < 128) (by decide +kernel)
    (ascii_of_mem_spread hascii d hd)

theorem isCapital_ofChars : ∀ c ∈ ofChars name, isCapital c = false := by
  intro c hc
  rw [ofChars_ascii hascii] at hc
  obtain ⟨d, hd, rfl⟩ := List.mem_map.mp hc
  exact Text.forall_ascii (p := fun d => isCapital d.toLower = false) (by decide +kernel)
    (ascii_of_mem_spread hascii d hd)

end Ascii

theorem not_isCut (hsmall : ∀ c ∈ name, isCapital c = false) (i : Nat) : ¬ IsCut name i := by
  have hno (j : Nat) : ¬ name[j]?.any isCapital = true := by
    intro h
    obtain ⟨c, hc, hcapital⟩ := (Option.any_eq_true ..).mp h
    exact absurd hcapital (by simp [hsmall c (List.mem_of_getElem? hc)])
  rintro ⟨-, -, ⟨hcapital, -⟩ | ⟨-, j, -, hcapital, -⟩⟩
  · exact hno i hcapital
  · exact hno j hcapital

theorem spread_of_small (hsmall : ∀ c ∈ name, isCapital c = false) : spread name = name := by
  have hplain : ∀ p ∈ name.zipIdx,
      (if IsCut name p.2 then ['_', p.1] else [p.1]) = [p.1] := fun p _ =>
    if_neg (not_isCut hsmall p.2)
  rw [spread, List.flatMap_congr hplain, ← List.map_eq_flatMap, List.zipIdx_map_fst]

theorem ofChars_of_small (hascii : ∀ c ∈ name, c.toNat < 128)
    (hsmall : ∀ c ∈ name, isCapital c = false) : ofChars name = name := by
  rw [ofChars_ascii hascii, spread_of_small hsmall]
  refine (List.map_congr_left fun c hc => ?_).trans (List.map_id name)
  exact Text.forall_ascii (p := fun c => isCapital c = false → c.toLower = c)
    (by decide +kernel) (hascii c hc) (hsmall c hc)

end MemberName

open MemberName

/-- The member name of an ASCII name is the name in small letters with an underscore before
each cut.  It has no capital, a name without capitals is its own member name and no other is,
and taking the member name twice changes nothing more. -/
theorem memberName_ascii {name : String} (hascii : ∀ c ∈ name.toList, c.toNat < 128) :
    (memberName name).toList = (spread name.toList).map Char.toLower ∧
      (∀ c ∈ (memberName name).toList, isCapital c = false) ∧
      (memberName name = name ↔ ∀ c ∈ name.toList, isCapital c = false) ∧
      memberName (memberName name) = memberName name := by
  have hchars (field : String) : (memberName field).toList = ofChars field.toList :=
    String.toList_ofList
  have hfixed {field : String} (h : ∀ c ∈ field.toList, c.toNat < 128)
      (hsmall : ∀ c ∈ field.toList, isCapital c = false) : memberName field = field := by
    rw [memberName, ofChars_of_small h hsmall, String.ofList_toList]
  have hcapital : ∀ c ∈ (memberName name).toList, isCapital c = false := by
    rw [hchars]
    exact isCapital_ofChars hascii
  refine ⟨(hchars name).trans (ofChars_ascii hascii), hcapital, ?_, ?_⟩
  · exact ⟨fun heq => heq ▸ hcapital, hfixed hascii⟩
  · refine hfixed ?_ hcapital
    rw [hchars]
    exact ascii_ofChars hascii

/-- A run of capitals is cut from the word after it. -/
theorem memberName_ascii_prefix : memberName "URLBase" = "url_base" ∧
    memberName (memberName "URLBase") = memberName "URLBase" := by
  have hascii : ∀ c ∈ "URLBase".toList, c.toNat < 128 := by simp
  have hspread : spread "URLBase".toList = "URL_Base".toList := by decide +kernel
  obtain ⟨hchars, -, -, hagain⟩ := memberName_ascii hascii
  rw [hspread] at hchars
  exact ⟨String.toList_inj.mp (hchars.trans (by decide)), hagain⟩

end Schematic
