import Schematic.Proofs.Json.Number
import Schematic.Proofs.Tag.Concatenation
import Schematic.Proofs.Text.Literal
import Schematic.Proofs.Time.Writing

/-!
Tags that set a given value.  Three readers stand between a tag and the value that it sets: the
reader of pairs, which stops at a quote, the reader of literals, which takes the escapes back, and
the rule of the kind of the field.  A text is escaped so that the first two give it back
(`parse_written`), and for each kind but that of floats the text of a value is a literal that the
rule takes for this value (`Kind.Writes.defaultOf`).
-/

namespace Schematic

/-! ## Integers -/

namespace Number

open Binary64 (digitsOf)

theorem asciiDigit?_of_isDigit {c : Char} (h : c.isDigit = true) :
    Text.asciiDigit? c = some (c.toNat - 48) :=
  if_pos (Json.toNat_of_isDigit h)

theorem asciiDigits?_of_isDigit {s : List Char} (h : ∀ c ∈ s, c.isDigit = true) :
    Text.asciiDigits? s = some (s.map fun c => c.toNat - 48) := by
  induction s with
  | nil => rfl
  | cons c rest ih =>
    obtain ⟨hhead, hrest⟩ := List.forall_mem_cons.mp h
    have hmore : rest.mapM Text.asciiDigit? = _ := ih hrest
    rw [Text.asciiDigits?, List.mapM_cons, asciiDigit?_of_isDigit hhead, hmore]
    rfl

theorem splitSign_digitsOf (n : Nat) : splitSign (digitsOf n) = (false, digitsOf n) := by
  obtain ⟨c, rest, hdigits⟩ := List.exists_cons_of_ne_nil (Nat.toDigits_ne_nil (n := n) (b := 10))
  have hdigit : c.isDigit = true := Json.isDigit_digitsOf (hdigits ▸ List.mem_cons_self)
  change digitsOf n = c :: rest at hdigits
  rw [hdigits]
  unfold splitSign
  split
  next heq =>
    obtain rfl := (List.cons.inj heq).1
    exact absurd hdigit (by decide)
  next heq =>
    obtain rfl := (List.cons.inj heq).1
    exact absurd hdigit (by decide)
  next => rfl

/-- An integer is read from its text, digit by digit. -/
theorem readInt?_toString (i : Int) : readInt? (toString i).toList =
    some (decide (i < 0), (digitsOf i.natAbs).map fun c => c.toNat - 48) := by
  have hdigits := asciiDigits?_of_isDigit fun c (hc : c ∈ digitsOf i.natAbs) => Json.isDigit_digitsOf hc
  have hsome : (digitsOf i.natAbs).isEmpty = false :=
    List.isEmpty_eq_false_iff.mpr Nat.toDigits_ne_nil
  rw [Json.toString_int, String.toList_ofList]
  by_cases hneg : i < 0
  · rw [decide_eq_true hneg, if_pos rfl]
    simp only [readInt?, splitSign, hsome, hdigits]
    rfl
  · rw [decide_eq_false hneg, if_neg Bool.false_ne_true]
    simp only [readInt?, splitSign_digitsOf, hsome, hdigits]
    rfl

end Number

/-- An integer is read back from its text unless it has too many digits. -/
theorem Coercion.parseInt_toString {i : Int} (h : (toString i.natAbs).length ≤ maxDigits) :
    parseInt (toString i) = .ok i := by
  have hlength : (toString i.natAbs).length = (Binary64.digitsOf i.natAbs).length := by
    show i.natAbs.repr.length = _
    rw [Nat.repr_eq_ofList_toDigits, String.length_ofList]
    rfl
  have hvalue : Text.digitsValue ((Binary64.digitsOf i.natAbs).map fun c => c.toNat - 48) = i.natAbs := by
    rw [Json.digitsValue_chars]
    exact Nat.ofDigitChars_ten_toDigits
  rw [parseInt, Number.readInt?_toString]
  dsimp only
  rw [List.length_map, if_neg (by omega), hvalue, Number.signed]
  congr 1
  by_cases hneg : i < 0
  · rw [decide_eq_true hneg, if_pos rfl]
    omega
  · rw [decide_eq_false hneg, if_neg Bool.false_ne_true]
    omega

/-! ## Values and their texts -/

/-- The text that a default of a kind is written as.  Points in time have an offset of whole
minutes, texts are not empty, and integers have no more digits than a literal may have. -/
inductive Kind.Writes : Kind → Value → String → Prop
  | boolean (b : Bool) : Writes .boolean (.bool b) (if b then "true" else "false")
  | string {s : String} (hne : s ≠ "") : Writes .string (.str s) s
  | integer {i : Int} (hdigits : (toString i.natAbs).length ≤ 4300) :
      Writes .integer (.int i) (toString i)
  | datetime {d : DateTime} {offset : Time.Offset} (hoffset : d.offset = some offset)
      (hminutes : offset.IsWholeMinutes) : Writes .datetime (.datetime d) d.rfc3339

namespace Kind.Writes

variable {kind : Kind} {value : Value} {text : String}

theorem defaultOf_of_parse (rule : Coercion) (h : rule.parse text = .ok value) :
    Tag.defaultOf rule.kind (.str text) = .ok value := by
  have hstring : rule.kind ≠ .string := by cases rule <;> decide
  have hrule : Coercion.ofKind? rule.kind = some rule := by cases rule <;> rfl
  rw [Tag.defaultOf, if_neg hstring, hrule]
  show (rule.parse text).mapError _ = _
  rw [h]
  rfl

/-- A default is what its text is taken for by the rule of its kind. -/
theorem defaultOf (h : kind.Writes value text) : Tag.defaultOf kind (.str text) = .ok value := by
  cases h with
  | boolean b =>
    refine defaultOf_of_parse .boolean ?_
    cases b <;> rfl
  | string => rfl
  | integer hdigits =>
    refine defaultOf_of_parse .integer ?_
    rw [Coercion.parse, Coercion.parseInt_toString hdigits]
    rfl
  | @datetime d offset hoffset hminutes =>
    have hgiven : d.offset.getD .utc = offset := by rw [hoffset]; rfl
    have hsame : { d with offset := some offset } = d := by rw [← hoffset]
    refine defaultOf_of_parse .datetime ?_
    rw [Coercion.parse, Coercion.parseDateTime_rfc3339 hgiven hminutes, hsame]
    rfl

theorem ne_empty (h : kind.Writes value text) : text ≠ "" := by
  cases h with
  | boolean b => cases b <;> decide
  | string hne => exact hne
  | @integer i =>
    intro hempty
    have hread := Number.readInt?_toString i
    rw [hempty] at hread
    cases hread
  | @datetime d =>
    intro hempty
    have hdate : DateTime.iso { d with offset := none } ≠ [] := by
      unfold DateTime.iso
      simp [DateTime.isoWith]
    rw [DateTime.rfc3339, String.ofList_eq_empty_iff, Time.Rfc3339.format] at hempty
    exact hdate (List.append_eq_nil_iff.mp hempty).1

end Kind.Writes

namespace Tag

variable {field : Field} {key text : String}

/-- The tag that sets a text under a key. -/
def written (key text : String) : String :=
  key ++ ":\"" ++ String.ofList (Text.Literal.escape text.toList) ++ "\""

/-- What is written is one pair, whose literal denotes the text. -/
theorem parse_written [Text.Repertoire] (hkey : key ≠ "") (hchars : key.toList.all isKeyChar = true)
    (htext : text ≠ "") : parse field (written key text) = apply field key text := by
  let pair : Pair := ⟨key.toList, Text.Literal.escape text.toList⟩
  have hformed : pair.IsFormed :=
    ⟨toList_ne_nil hkey, List.all_eq_true.mp hchars,
      Text.Literal.escape_ne_nil (toList_ne_nil htext),
      fun c hc => (Text.Literal.isInner_of_mem_escape hc).1⟩
  have hpair : written key text = String.ofList pair.text := by
    rw [← String.toList_inj, String.toList_ofList]
    simp [written, pair, Pair.text]
  rw [hpair, parse_pair hformed, applyPair_of_value (Text.Literal.read_escape _), String.ofList_toList,
    String.ofList_toList]

/-- Every default but a float, an empty text or a number that is too long can be set by a tag, and
so can every description; nothing else changes. -/
theorem set_by_written [Text.Repertoire] (field : Field) :
    (∀ value text, field.schema.kind.Writes value text →
      parse field (written "default" text) = .ok { field with default := value }) ∧
    ∀ text, text ≠ "" → parse field (written "description" text) =
      .ok { field with schema := { field.schema with description := text } } := by
  constructor
  · intro value text h
    rw [parse_written (by decide) rfl h.ne_empty]
    show (defaultOf field.schema.kind (.str text)).map _ = _
    rw [h.defaultOf]
    rfl
  · intro text htext
    rw [parse_written (by decide) rfl htext]
    rfl

/-- A quote, a backslash before a letter, and the characters that end a line or a text. -/
def awkwardText : String :=
  "say \"\\n\"\n\r\x00"

theorem set_by_written_awkward :
    written "default" awkwardText = "default:\"say \\x22\\\\n\\x22\\n\\r\\x00\"" ∧
      parse (Schema.ofKind .string).toField (written "default" awkwardText) =
        .ok { (Schema.ofKind .string).toField with default := .str awkwardText } ∧
      parse (Schema.ofKind .datetime).toField (written "default" Coercion.leapDayEnd.rfc3339) =
        .ok { (Schema.ofKind .datetime).toField with default := .datetime Coercion.leapDayEnd } ∧
      parse (Schema.ofKind .integer).toField (written "description" awkwardText) =
        .ok (Schema.toField { Schema.ofKind .integer with description := awkwardText }) := by
  have hminutes : Time.Offset.IsWholeMinutes ⟨-27000000000, by decide⟩ := rfl
  have hne : awkwardText ≠ "" := by decide
  exact ⟨by decide, (set_by_written _).1 _ _ (.string hne),
    (set_by_written _).1 _ _ (.datetime rfl hminutes), (set_by_written _).2 _ hne⟩

end Tag
end Schematic
