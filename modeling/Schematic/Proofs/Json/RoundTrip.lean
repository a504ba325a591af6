import Schematic.Proofs.Json.Strings
import Schematic.Proofs.Outcome

/-!
Documents in JSON texts.  A document is read back from its text if its floats are finite, its integers
have no more digits than are read and its containers are not nested too deep.  What is read from a
text satisfies the last two of these.
-/

namespace Schematic
namespace Json

open Text.Utf8 (encode encode_append encode_ofList)

/-- A document whose parts have at most `room` containers around them, with integers that are not too
long and floats of a property. -/
inductive Limited (number : Binary64 → Prop) : Nat → Json → Prop
  | null {room : Nat} : Limited number room .null
  | bool {room : Nat} (b : Bool) : Limited number room (.bool b)
  | int {room : Nat} {i : Int} (h : i.natAbs < 10 ^ maxIntegerDigits) : Limited number room (.int i)
  | float {room : Nat} {x : Binary64} (h : number x) : Limited number room (.float x)
  | str {room : Nat} (s : String) : Limited number room (.str s)
  | array {room : Nat} {items : List Json} (hroom : items ≠ [] → 0 < room)
      (h : ∀ item ∈ items, Limited number (room - 1) item) : Limited number room (.array items)
  | object {room : Nat} {members : List (String × Json)} (hroom : members ≠ [] → 0 < room)
      (h : ∀ p ∈ members, Limited number (room - 1) p.2) : Limited number room (.object members)

variable {nonFinite : Bool} {fuel depth : Nat} {rest : Bytes}

/-! ## White space -/

def IsBlank (bytes : Bytes) : Prop :=
  ∀ b ∈ bytes, isSpace b = true

theorem skipSpace_append {blank : Bytes} (h : IsBlank blank) (rest : Bytes) :
    skipSpace (blank ++ rest) = skipSpace rest :=
  List.dropWhile_append_of_pos h

theorem skipSpace_cons {b : UInt8} (h : isSpace b = false) (rest : Bytes) :
    skipSpace (b :: rest) = b :: rest := by
  show (b :: rest).dropWhile isSpace = _
  rw [List.dropWhile_cons, h]
  rfl

theorem readValue_blank {blank : Bytes} (h : IsBlank blank) (rest : Bytes) :
    readValue nonFinite (fuel + 1) depth (blank ++ rest) =
      readValue nonFinite (fuel + 1) depth rest := by
  rw [readValue, readValue, skipSpace_append h]

theorem endsNumber_cons {b : UInt8} (hdigit : isDigit b = false)
    (hother : b ≠ byte '.' ∧ b ≠ byte 'e' ∧ b ≠ byte 'E') : EndsNumber (b :: rest) := by
  refine ⟨fun c hc => ?_, fun c hc => ?_⟩
  · rw [← Option.some.inj hc]
    exact hdigit
  · rw [← Option.some.inj hc]
    exact hother

theorem endsNumber_blank {blank : Bytes} (h : IsBlank blank) (hrest : EndsNumber rest) :
    EndsNumber (blank ++ rest) := by
  cases blank with
  | nil => exact hrest
  | cons b more =>
    have hspace := h b List.mem_cons_self
    simp only [isSpace, Bool.or_eq_true, beq_iff_eq] at hspace
    rcases hspace with ((rfl | rfl) | rfl) | rfl <;>
      exact endsNumber_cons (by decide) (by decide)

/-! ## Values -/

/-- A text that starts neither with white space nor with the end of a list. -/
def StartsValue (text : Bytes) : Prop :=
  ∃ b rest, text = b :: rest ∧ isSpace b = false ∧ b ≠ byte ']'

/-- A text that is read as a document, whatever ends it. -/
structure ReadsBack (depth : Nat) (text : Bytes) (json : Json) : Prop where
  starts : StartsValue text
  reads : ∀ nonFinite fuel rest, 3 * text.length ≤ fuel → EndsNumber rest →
    readValue nonFinite fuel depth (text ++ rest) = .ok (json, rest)

theorem readsBack_word {b : UInt8} {more : Bytes} {json : Json} (hspace : isSpace b = false)
    (hlist : b ≠ byte ']') (h : ∀ nonFinite fuel rest,
      readValue nonFinite (fuel + 1) depth (b :: more ++ rest) =
      .ok (json, rest)) : ReadsBack depth (b :: more) json := by
  refine ⟨⟨b, more, rfl, hspace, hlist⟩, fun nonFinite fuel rest hfuel _ => ?_⟩
  rw [List.length_cons] at hfuel
  obtain ⟨n, rfl⟩ : ∃ n, fuel = n + 1 := ⟨fuel - 1, by omega⟩
  exact h nonFinite n rest

theorem isDigit_other {b c : UInt8} (hb : isDigit b = true) (hc : isDigit c = false) : b ≠ c := by
  rintro rfl
  rw [hb] at hc
  cases hc

/-- The first byte of a number is no other start of a value. -/
theorem number_start {b : UInt8} (h : b = byte '-' ∨ isDigit b = true) {c : UInt8}
    (hminus : c ≠ byte '-') (hdigit : isDigit c = false) : b ≠ c := by
  rcases h with rfl | h
  · exact hminus.symm
  · exact isDigit_other h hdigit

theorem isSpace_number {b : UInt8} (h : b = byte '-' ∨ isDigit b = true) : isSpace b = false := by
  have hne {c : UInt8} (hminus : c ≠ byte '-') (hdigit : isDigit c = false) : (b == c) = false :=
    beq_eq_false_iff_ne.mpr (number_start h hminus hdigit)
  unfold isSpace
  rw [hne (by decide) (by decide), hne (by decide) (by decide), hne (by decide) (by decide),
    hne (by decide) (by decide)]
  rfl

/-- A number that is read as a document by itself is read as a value. -/
theorem readsBack_number (hdepth : depth ≤ maxDepth) {text : Bytes} {json : Json}
    (h : ∀ nonFinite rest, EndsNumber rest →
      StartsNumber text ∧ readNumber nonFinite (text ++ rest) = .ok (json, rest)) :
    ReadsBack depth text json := by
  have hnil : EndsNumber [] := ⟨nofun, nofun⟩
  obtain ⟨b, more, rfl, hstart⟩ := (h true [] hnil).1
  refine ⟨⟨b, more, rfl, isSpace_number hstart, number_start hstart (by decide) (by decide)⟩,
    fun nonFinite fuel rest hfuel hrest => ?_⟩
  rw [List.length_cons] at hfuel
  obtain ⟨n, rfl⟩ : ∃ n, fuel = n + 1 := ⟨fuel - 1, by omega⟩
  have hnumber : (decide (b = byte '-') || isDigit b) = true := by
    rw [Bool.or_eq_true, decide_eq_true_eq]
    exact hstart
  rw [List.cons_append, readValue, skipSpace_cons (isSpace_number hstart)]
  dsimp only
  rw [if_neg (Nat.not_lt.mpr hdepth), if_neg (number_start hstart (by decide) (by decide)),
    if_neg (number_start hstart (by decide) (by decide)),
    if_neg (number_start hstart (by decide) (by decide)), if_pos hnumber]
  exact (h nonFinite rest hrest).2

theorem readsBack_string (hdepth : depth ≤ maxDepth) (s : String) :
    ReadsBack depth (encode (stringText false s)) (.str s) := by
  have htext := encode_stringText s []
  rw [List.append_nil] at htext
  rw [htext]
  refine readsBack_word (by decide) (by decide) fun nonFinite fuel rest => ?_
  rw [← htext, encode_stringText, readValue, skipSpace_cons (by decide)]
  dsimp only
  rw [if_neg (Nat.not_lt.mpr hdepth), if_pos rfl, readString_stringText]
  rfl

theorem readsBack_atom (hdepth : depth ≤ maxDepth) :
    ReadsBack depth (encode "null") .null ∧ ReadsBack depth (encode "true") (.bool true) ∧
      ReadsBack depth (encode "false") (.bool false) := by
  have hnot := Nat.not_lt.mpr hdepth
  have hnull : encode "null" = [byte 'n', byte 'u', byte 'l', byte 'l'] := by decide
  have htrue : encode "true" = [byte 't', byte 'r', byte 'u', byte 'e'] := by decide
  have hfalse : encode "false" = [byte 'f', byte 'a', byte 'l', byte 's', byte 'e'] := by decide
  rw [hnull, htrue, hfalse]
  refine ⟨readsBack_word (by decide) (by decide) fun nonFinite fuel rest => ?_,
    readsBack_word (by decide) (by decide) fun nonFinite fuel rest => ?_,
    readsBack_word (by decide) (by decide) fun nonFinite fuel rest => ?_⟩
  all_goals
    rw [List.cons_append, readValue, skipSpace_cons (by decide)]
    dsimp only
    rw [if_neg hnot]
    rfl

/-! ## Lists -/

/-- Texts with commas between them, each with white space after it. -/
def joined (blank : Bytes) : List Bytes → Bytes
  | [] => []
  | [text] => text
  | text :: next :: rest => text ++ byte ',' :: (blank ++ joined blank (next :: rest))

theorem encode_intercalate {separator : String} {blank : Bytes}
    (h : encode separator = byte ',' :: blank) (texts : List String) :
    encode (separator.intercalate texts) = joined blank (texts.map encode) := by
  induction texts with
  | nil => rfl
  | cons text rest ih =>
    cases rest with
    | nil => rw [String.intercalate_singleton]; rfl
    | cons next more =>
      rw [String.intercalate_cons_cons, encode_append, encode_append, ih, h, List.append_assoc]
      rfl

theorem startsValue_append {text : Bytes} (h : StartsValue text) (rest : Bytes) :
    StartsValue (text ++ rest) := by
  obtain ⟨b, more, rfl, hspace, hlist⟩ := h
  exact ⟨b, more ++ rest, rfl, hspace, hlist⟩

theorem startsValue_joined {blank text : Bytes} {texts : List Bytes} (h : StartsValue text) :
    StartsValue (joined blank (text :: texts)) := by
  cases texts with
  | nil => exact h
  | cons next more => exact startsValue_append h _

variable {blank last : Bytes}

theorem joined_cons_append (text next : Bytes) (more : List Bytes) (rest : Bytes) :
    joined blank (text :: next :: more) ++ rest =
      text ++ byte ',' :: (blank ++ (joined blank (next :: more) ++ rest)) := by
  show text ++ byte ',' :: (blank ++ joined blank (next :: more)) ++ _ = _
  rw [List.append_assoc, List.cons_append, List.append_assoc]

theorem length_joined_cons (text next : Bytes) (more : List Bytes) :
    (joined blank (text :: next :: more)).length =
      text.length + (blank.length + (joined blank (next :: more)).length + 1) := by
  show (text ++ byte ',' :: (blank ++ joined blank (next :: more))).length = _
  rw [List.length_append, List.length_cons, List.length_append]

theorem readMoreItems_last (hlast : IsBlank last) {text : Bytes} {item : Json}
    (hitem : readValue nonFinite fuel depth text = .ok (item, last ++ byte ']' :: rest)) :
    readMoreItems nonFinite (fuel + 1) depth text = .ok ([item], rest) := by
  rw [readMoreItems, hitem]
  dsimp only [bind, Except.bind]
  rw [skipSpace_append hlast, skipSpace_cons (by decide)]
  exact if_pos rfl

theorem readMoreItems_next (hblank : IsBlank blank) {text after : Bytes} {item : Json}
    {items : List Json}
    (hitem : readValue nonFinite fuel depth text = .ok (item, byte ',' :: (blank ++ after)))
    (hstarts : StartsValue after)
    (hmore : readMoreItems nonFinite fuel depth after = .ok (items, rest)) :
    readMoreItems nonFinite (fuel + 1) depth text = .ok (item :: items, rest) := by
  obtain ⟨b, tail, rfl, hspace, hlist⟩ := hstarts
  rw [readMoreItems, hitem]
  dsimp only [bind, Except.bind]
  rw [skipSpace_cons (by decide)]
  dsimp only
  rw [if_neg (by decide), if_pos rfl, skipSpace_append hblank, skipSpace_cons hspace]
  dsimp only
  rw [if_neg hlist, hmore]

/-- The elements of a list, one at least, are read up to its end. -/
theorem readMoreItems_joined (hblank : IsBlank blank) (hlast : IsBlank last) {texts : List Bytes}
    {items : List Json} (h : List.Forall₂ (ReadsBack depth) texts items) (hne : texts ≠ [])
    (hfuel : 3 * (joined blank texts).length + 1 ≤ fuel) :
    readMoreItems nonFinite fuel depth (joined blank texts ++ (last ++ byte ']' :: rest)) =
      .ok (items, rest) := by
  induction h generalizing fuel with
  | nil => exact absurd rfl hne
  | @cons text item texts items htext htexts ih =>
    obtain ⟨n, rfl⟩ : ∃ n, fuel = n + 1 := ⟨fuel - 1, by omega⟩
    cases htexts with
    | nil =>
      change 3 * text.length + 1 ≤ n + 1 at hfuel
      have hends : EndsNumber (last ++ byte ']' :: rest) :=
        endsNumber_blank hlast (endsNumber_cons (by decide) (by decide))
      exact readMoreItems_last hlast (htext.reads nonFinite n _ (by omega) hends)
    | @cons next nextItem more moreItems hnext hmore =>
      rw [length_joined_cons] at hfuel
      rw [joined_cons_append]
      refine readMoreItems_next hblank (htext.reads nonFinite n _ (by omega)
        (endsNumber_cons (by decide) (by decide))) ?_ (ih (List.cons_ne_nil _ _) (by omega))
      exact startsValue_append (startsValue_joined hnext.starts) _

theorem readsBack_emptyList (hdepth : depth ≤ maxDepth) :
    ReadsBack depth [byte '[', byte ']'] (.array []) := by
  refine ⟨⟨_, _, rfl, by decide, by decide⟩, fun nonFinite fuel rest hfuel _ => ?_⟩
  obtain ⟨n, rfl⟩ : ∃ n, fuel = n + 2 := ⟨fuel - 2, by change 6 ≤ fuel at hfuel; omega⟩
  show readValue nonFinite (n + 1 + 1) depth (byte '[' :: byte ']' :: rest) = _
  rw [readValue, skipSpace_cons (by decide)]
  dsimp only
  rw [if_neg (Nat.not_lt.mpr hdepth), if_neg (by decide), if_pos rfl, readItems,
    skipSpace_cons (by decide)]
  rfl

theorem readsBack_list (hdepth : depth ≤ maxDepth) {first : Bytes} (hfirst : IsBlank first)
    (hblank : IsBlank blank) (hlast : IsBlank last) {texts : List Bytes} {items : List Json}
    (h : List.Forall₂ (ReadsBack (depth + 1)) texts items) (hne : texts ≠ []) :
    ReadsBack depth (byte '[' :: (first ++ (joined blank texts ++ (last ++ [byte ']']))))
      (.array items) := by
  refine ⟨⟨_, _, rfl, by decide, by decide⟩, fun nonFinite fuel rest hfuel _ => ?_⟩
  simp only [List.length_cons, List.length_append] at hfuel
  obtain ⟨n, rfl⟩ : ∃ n, fuel = n + 2 := ⟨fuel - 2, by omega⟩
  have htext : byte '[' :: (first ++ (joined blank texts ++ (last ++ [byte ']']))) ++ rest =
      byte '[' :: (first ++ (joined blank texts ++ (last ++ byte ']' :: rest))) := by
    simp
  obtain ⟨text, more, rfl⟩ := List.exists_cons_of_ne_nil hne
  have hstarts : StartsValue text := by
    cases h with
    | cons hhead _ => exact hhead.starts
  obtain ⟨b, tail, hb, hspace, hlist⟩ := startsValue_append
    (@startsValue_joined blank text more hstarts) (last ++ byte ']' :: rest)
  have hread : readMoreItems nonFinite n (depth + 1) (joined blank (text :: more) ++
      (last ++ byte ']' :: rest)) = .ok (items, rest) :=
    readMoreItems_joined hblank hlast h hne (by omega)
  rw [htext, readValue, skipSpace_cons (by decide)]
  dsimp only
  rw [if_neg (Nat.not_lt.mpr hdepth), if_neg (by decide), if_pos rfl, readItems,
    skipSpace_append hfirst]
  rw [hb] at hread ⊢
  rw [skipSpace_cons hspace]
  dsimp only
  rw [if_neg hlist, hread]
  rfl

/-! ## Objects -/

/-- The text of a member, with white space after the colon. -/
def memberText (space : Bytes) (p : String × Bytes) : Bytes :=
  encode (stringText false p.1) ++ byte ':' :: (space ++ p.2)

theorem memberText_append (space : Bytes) (p : String × Bytes) (after : Bytes) :
    ∃ tail, memberText space p ++ after = byte '"' :: tail ∧
      readString tail = .ok (p.1, byte ':' :: (space ++ (p.2 ++ after))) := by
  have htext : memberText space p ++ after =
      encode (stringText false p.1) ++ byte ':' :: (space ++ (p.2 ++ after)) := by
    unfold memberText
    rw [List.append_assoc, List.cons_append, List.append_assoc]
  exact ⟨_, htext.trans (encode_stringText p.1 _), readString_stringText p.1 _⟩

theorem readColon_cons (rest : Bytes) : readColon (byte ':' :: rest) = .ok ((), rest) := by
  unfold readColon
  rw [skipSpace_cons (by decide)]
  exact if_pos rfl

theorem memberText_length (space : Bytes) (p : String × Bytes) :
    p.2.length < (memberText space p).length := by
  unfold memberText
  rw [List.length_append, List.length_cons, List.length_append]
  omega

/-- A text of a member that is read as it. -/
def MemberReadsBack (depth : Nat) (p : String × Bytes) (member : String × Json) : Prop :=
  p.1 = member.1 ∧ ReadsBack depth p.2 member.2

theorem readMoreMembers_last (hlast : IsBlank last) {text value : Bytes} {name : String}
    {json : Json} (hname : readString text = .ok (name, byte ':' :: value))
    (hvalue : readValue nonFinite fuel depth value = .ok (json, last ++ byte '\x7d' :: rest)) :
    readMoreMembers nonFinite (fuel + 1) depth text = .ok ([(name, json)], rest) := by
  rw [readMoreMembers, hname]
  dsimp only [bind, Except.bind]
  rw [readColon_cons]
  dsimp only
  rw [hvalue]
  dsimp only
  rw [skipSpace_append hlast, skipSpace_cons (by decide)]
  exact if_pos rfl

theorem readMoreMembers_next (hblank : IsBlank blank) {text value after : Bytes} {name : String}
    {json : Json} {members : List (String × Json)}
    (hname : readString text = .ok (name, byte ':' :: value))
    (hvalue : readValue nonFinite fuel depth value =
      .ok (json, byte ',' :: (blank ++ byte '"' :: after)))
    (hmore : readMoreMembers nonFinite fuel depth after = .ok (members, rest)) :
    readMoreMembers nonFinite (fuel + 1) depth text = .ok ((name, json) :: members, rest) := by
  rw [readMoreMembers, hname]
  dsimp only [bind, Except.bind]
  rw [readColon_cons]
  dsimp only
  rw [hvalue]
  dsimp only
  rw [skipSpace_cons (by decide)]
  dsimp only
  rw [if_neg (by decide), if_pos rfl, skipSpace_append hblank, skipSpace_cons (by decide)]
  dsimp only
  rw [if_pos rfl, hmore]

/-- The members of an object, one at least, are read up to its end. -/
theorem readMoreMembers_joined {space : Bytes} (hspace : IsBlank space) (hblank : IsBlank blank)
    (hlast : IsBlank last) {texts : List (String × Bytes)} {members : List (String × Json)}
    (h : List.Forall₂ (MemberReadsBack depth) texts members) (hne : texts ≠ []) :
    ∃ tail, joined blank (texts.map (memberText space)) ++ (last ++ byte '\x7d' :: rest) =
        byte '"' :: tail ∧
      ∀ fuel, 3 * (joined blank (texts.map (memberText space))).length + 1 ≤ fuel →
        readMoreMembers nonFinite fuel depth tail = .ok (members, rest) := by
  induction h with
  | nil => exact absurd rfl hne
  | @cons p member texts members hp htexts ih =>
    obtain ⟨name, text⟩ := p
    obtain ⟨name', json⟩ := member
    obtain ⟨rfl, htext⟩ : name = name' ∧ ReadsBack depth text json := hp
    have hlonger := memberText_length space (name, text)
    have hvalue {n : Nat} {after : Bytes} (hn : 3 * (memberText space (name, text)).length ≤ n)
        (hafter : EndsNumber after) :
        readValue nonFinite n depth (space ++ (text ++ after)) = .ok (json, after) := by
      obtain ⟨k, rfl⟩ : ∃ k, n = k + 1 := ⟨n - 1, by omega⟩
      rw [readValue_blank hspace]
      exact htext.reads nonFinite (k + 1) after (by change text.length < _ at hlonger; omega) hafter
    cases htexts with
    | nil =>
      have hends : EndsNumber (last ++ byte '\x7d' :: rest) :=
        endsNumber_blank hlast (endsNumber_cons (by decide) (by decide))
      obtain ⟨tail, htail, hname⟩ := memberText_append space (name, text) (last ++ byte '\x7d' :: rest)
      refine ⟨tail, htail, fun fuel hfuel => ?_⟩
      obtain ⟨n, rfl⟩ : ∃ n, fuel = n + 1 := ⟨fuel - 1, by omega⟩
      change 3 * (memberText space (name, text)).length + 1 ≤ n + 1 at hfuel
      exact readMoreMembers_last hlast hname (hvalue (by omega) hends)
    | @cons q other more members hq hmore =>
      obtain ⟨next, hnext, hread⟩ := ih (List.cons_ne_nil _ _)
      obtain ⟨tail, htail, hname⟩ :=
        memberText_append space (name, text) (byte ',' :: (blank ++ byte '"' :: next))
      refine ⟨tail, ?_, fun fuel hfuel => ?_⟩
      · rw [← htail, ← hnext, List.map_cons, List.map_cons, joined_cons_append]
      · rw [List.map_cons, List.map_cons, length_joined_cons] at hfuel
        obtain ⟨n, rfl⟩ : ∃ n, fuel = n + 1 := ⟨fuel - 1, by omega⟩
        refine readMoreMembers_next hblank hname
          (hvalue (by omega) (endsNumber_cons (by decide) (by decide))) (hread n ?_)
        rw [List.map_cons]
        omega

theorem readsBack_emptyObject (hdepth : depth ≤ maxDepth) :
    ReadsBack depth [byte '\x7b', byte '\x7d'] (.object []) := by
  refine ⟨⟨_, _, rfl, by decide, by decide⟩, fun nonFinite fuel rest hfuel _ => ?_⟩
  obtain ⟨n, rfl⟩ : ∃ n, fuel = n + 2 := ⟨fuel - 2, by change 6 ≤ fuel at hfuel; omega⟩
  show readValue nonFinite (n + 1 + 1) depth (byte '\x7b' :: byte '\x7d' :: rest) = _
  rw [readValue, skipSpace_cons (by decide)]
  dsimp only
  rw [if_neg (Nat.not_lt.mpr hdepth), if_neg (by decide), if_neg (by decide), if_pos rfl,
    readMembers, skipSpace_cons (by decide)]
  rfl

theorem readsBack_object (hdepth : depth ≤ maxDepth) {first space : Bytes} (hfirst : IsBlank first)
    (hspace : IsBlank space) (hblank : IsBlank blank) (hlast : IsBlank last)
    {texts : List (String × Bytes)} {members : List (String × Json)}
    (h : List.Forall₂ (MemberReadsBack (depth + 1)) texts members) (hne : texts ≠ []) :
    ReadsBack depth (byte '\x7b' :: (first ++ (joined blank (texts.map (memberText space)) ++
      (last ++ [byte '\x7d'])))) (.object members) := by
  refine ⟨⟨_, _, rfl, by decide, by decide⟩, fun nonFinite fuel rest hfuel _ => ?_⟩
  simp only [List.length_cons, List.length_append] at hfuel
  obtain ⟨n, rfl⟩ : ∃ n, fuel = n + 2 := ⟨fuel - 2, by omega⟩
  have htext : byte '\x7b' :: (first ++ (joined blank (texts.map (memberText space)) ++
      (last ++ [byte '\x7d']))) ++ rest =
        byte '\x7b' :: (first ++ (joined blank (texts.map (memberText space)) ++
          (last ++ byte '\x7d' :: rest))) := by
    simp
  obtain ⟨tail, htail, hread⟩ : ∃ tail, joined blank (texts.map (memberText space)) ++
      (last ++ byte '\x7d' :: rest) = byte '"' :: tail ∧ _ :=
    readMoreMembers_joined hspace hblank hlast h hne
  rw [htext, htail, readValue, skipSpace_cons (by decide)]
  dsimp only
  rw [if_neg (Nat.not_lt.mpr hdepth), if_neg (by decide), if_neg (by decide), if_pos rfl,
    readMembers, skipSpace_append hfirst, skipSpace_cons (by decide)]
  dsimp only
  rw [if_neg (by decide), if_pos rfl, hread n (by omega)]
  rfl

/-! ## The texts of schemas -/

variable (indent : Option Nat)

theorem isBlank_breakLine (level : Nat) :
    IsBlank (encode ((Style.schemaText indent).breakLine level)) := by
  cases indent with
  | none =>
    intro b hb
    cases hb
  | some width =>
    show IsBlank (encode (String.ofList _))
    rw [encode_ofList, List.flatMap_cons, Text.Utf8.utf8EncodeChar_ascii (by decide),
      Text.Utf8.flatMap_ascii fun c hc => by rw [List.eq_of_mem_replicate hc]; decide]
    intro b hb
    rcases List.mem_append.mp hb with hbreak | hspaces
    · rw [List.mem_singleton.mp hbreak]
      decide
    · obtain ⟨c, hc, rfl⟩ := List.mem_map.mp hspaces
      rw [List.eq_of_mem_replicate hc]
      decide

theorem encode_separator (level : Nat) :
    encode ((Style.schemaText indent).separator level) =
      byte ',' :: encode ((Style.schemaText indent).breakLine level) := by
  have hcomma : encode "," = [byte ','] := by decide
  cases indent with
  | none => exact hcomma
  | some width =>
    show encode ("," ++ _) = _
    rw [encode_append, hcomma]
    rfl

def colonSpace : Bytes :=
  match indent with
  | none => []
  | some _ => [byte ' ']

theorem isBlank_colonSpace : IsBlank (colonSpace indent) := by
  cases indent with
  | none =>
    intro b hb
    cases hb
  | some width =>
    intro b hb
    rw [show b = byte ' ' from List.mem_singleton.mp hb]
    decide

theorem encode_colon :
    encode (Style.schemaText indent).colon = byte ':' :: colonSpace indent := by
  have hcolon : encode ":" = [byte ':'] := by decide
  have hspaced : encode ": " = [byte ':', byte ' '] := by decide
  cases indent with
  | none => exact hcolon
  | some width => exact hspaced

/-- The bytes of a container that is not empty. -/
theorem encode_container (first last : String) (level : Nat) {texts : List String}
    (hne : texts ≠ []) :
    encode ((Style.schemaText indent).container first last level texts) =
      encode first ++ (encode ((Style.schemaText indent).breakLine (level + 1)) ++
        (joined (encode ((Style.schemaText indent).breakLine (level + 1))) (texts.map encode) ++
          (encode ((Style.schemaText indent).breakLine level) ++ encode last))) := by
  unfold Style.container
  rw [if_neg (by rwa [List.isEmpty_iff]), encode_append, encode_append, encode_append, encode_append,
    encode_intercalate (encode_separator indent (level + 1))]
  simp only [List.append_assoc]

theorem itemTexts_eq (style : Style) (level : Nat) (items : List Json) :
    itemTexts style level items = items.map (textAt style level) := by
  induction items with
  | nil => rfl
  | cons item rest ih => rw [itemTexts, ih, List.map_cons]

theorem memberTexts_eq (style : Style) (level : Nat) (members : List (String × Json)) :
    memberTexts style level members = members.map fun p =>
      stringText style.asciiOnly p.1 ++ style.colon ++ textAt style level p.2 := by
  induction members with
  | nil => rfl
  | cons p rest ih => rw [memberTexts, ih, List.map_cons]

theorem encode_memberTexts (level : Nat) (members : List (String × Json)) :
    (memberTexts (Style.schemaText indent) level members).map encode =
      (members.map fun p => (p.1, encode (textAt (Style.schemaText indent) level p.2))).map
        (memberText (colonSpace indent)) := by
  rw [memberTexts_eq, List.map_map, List.map_map]
  refine List.map_congr_left fun p _ => ?_
  have hascii : (Style.schemaText indent).asciiOnly = false := rfl
  unfold memberText Function.comp
  rw [hascii, encode_append, encode_append, encode_colon, List.append_assoc, List.cons_append]

theorem readsBack_arrayText (level : Nat) (hdepth : depth ≤ maxDepth) {items : List Json}
    (h : ∀ item ∈ items,
      ReadsBack (depth + 1) (encode (textAt (Style.schemaText indent) (level + 1) item)) item) :
    ReadsBack depth (encode (textAt (Style.schemaText indent) level (.array items)))
      (.array items) := by
  rw [textAt, itemTexts_eq]
  by_cases hempty : items = []
  · subst hempty
    have hbrackets : encode ("[" ++ "]") = [byte '[', byte ']'] := by decide
    show ReadsBack depth (encode ("[" ++ "]")) _
    rw [hbrackets]
    exact readsBack_emptyList hdepth
  have hitems : List.Forall₂ (ReadsBack (depth + 1))
      (items.map fun item => encode (textAt (Style.schemaText indent) (level + 1) item)) items := by
    rw [List.forall₂_map_left_iff, List.forall₂_same]
    exact h
  have hread := readsBack_list hdepth (isBlank_breakLine indent (level + 1))
    (isBlank_breakLine indent (level + 1)) (isBlank_breakLine indent level) hitems
    (by rwa [Ne, List.map_eq_nil_iff])
  have hopen : encode "[" = [byte '['] := by decide
  have hclose : encode "]" = [byte ']'] := by decide
  rw [encode_container indent "[" "]" level (by rwa [Ne, List.map_eq_nil_iff]), hopen, hclose,
    List.map_map]
  exact hread

theorem readsBack_objectText (level : Nat) (hdepth : depth ≤ maxDepth)
    {members : List (String × Json)}
    (h : ∀ p ∈ members,
      ReadsBack (depth + 1) (encode (textAt (Style.schemaText indent) (level + 1) p.2)) p.2) :
    ReadsBack depth (encode (textAt (Style.schemaText indent) level (.object members)))
      (.object members) := by
  rw [textAt]
  by_cases hempty : members = []
  · subst hempty
    have hbraces : encode ("\x7b" ++ "\x7d") = [byte '\x7b', byte '\x7d'] := by decide
    show ReadsBack depth (encode ("\x7b" ++ "\x7d")) _
    rw [hbraces]
    exact readsBack_emptyObject hdepth
  have hmembers : List.Forall₂ (MemberReadsBack (depth + 1))
      (members.map fun p => (p.1, encode (textAt (Style.schemaText indent) (level + 1) p.2)))
      members := by
    rw [List.forall₂_map_left_iff, List.forall₂_same]
    exact fun p hp => ⟨rfl, h p hp⟩
  have hread := readsBack_object hdepth (isBlank_breakLine indent (level + 1))
    (isBlank_colonSpace indent) (isBlank_breakLine indent (level + 1))
    (isBlank_breakLine indent level) hmembers (by rwa [Ne, List.map_eq_nil_iff])
  have hopen : encode "\x7b" = [byte '\x7b'] := by decide
  have hclose : encode "\x7d" = [byte '\x7d'] := by decide
  rw [encode_container indent "\x7b" "\x7d" level
    (by rwa [memberTexts_eq, Ne, List.map_eq_nil_iff]), encode_memberTexts, hopen, hclose]
  exact hread

/-- A document with room for its containers is read back from its text. -/
theorem readsBack_text {json : Json} {room : Nat}
    (h : Limited (fun x => x.isFinite = true) room json) (level : Nat) {depth : Nat}
    (hdepth : depth + room ≤ maxDepth) :
    ReadsBack depth (encode (textAt (Style.schemaText indent) level json)) json := by
  induction h generalizing level depth with
  | null => exact (readsBack_atom (by omega)).1
  | bool b =>
    cases b
    · exact (readsBack_atom (by omega)).2.2
    · exact (readsBack_atom (by omega)).2.1
  | int hsize => exact readsBack_number (by omega) fun nonFinite rest hrest =>
      readNumber_int nonFinite hsize hrest
  | float hfinite =>
    exact readsBack_number (by omega) fun nonFinite rest hrest =>
      readNumber_float nonFinite hfinite _ hrest
  | str s => exact readsBack_string (by omega) s
  | @array room items hroom _ ih =>
    refine readsBack_arrayText indent level (by omega) fun item hitem => ?_
    have hpos := hroom (List.ne_nil_of_mem hitem)
    exact ih item hitem (level + 1) (by omega)
  | @object room members hroom _ ih =>
    refine readsBack_objectText indent level (by omega) fun p hp => ?_
    have hpos := hroom (List.ne_nil_of_mem hp)
    exact ih p hp (level + 1) (by omega)

/-- A document that is limited as the reader is, with finite floats, is read back from its text, also
where no other floats are allowed. -/
theorem read_text {json : Json} (h : Limited (fun x => x.isFinite = true) maxDepth json)
    (nonFinite : Bool) : read nonFinite (encode (json.text (Style.schemaText indent))) = .ok json := by
  have htext : ReadsBack 0 _ json := readsBack_text indent h 0 (by omega)
  have hread := htext.reads nonFinite
    (3 * (encode (json.text (Style.schemaText indent))).length + 3) []
    (Nat.le_add_right _ _) ⟨nofun, nofun⟩
  rw [List.append_nil] at hread
  change readValue nonFinite _ 0 (encode (json.text (Style.schemaText indent))) = _ at hread
  unfold read readDocument
  rw [hread]
  rfl

end Json
end Schematic
