import Schematic.Json.Printer
import Schematic.Json.Reader
import Schematic.Proofs.Json.Number
import Schematic.Proofs.Text.Utf8

/-!
Strings in JSON texts.  The text of a character is an escape or the character itself, and from either
the bytes of the character are read; so a string is read back from the text between its quotes.
-/

namespace Schematic
namespace Json

open Text.Utf8

variable {rest : Bytes}

/-- The bytes that are read, with others in front of them. -/
def prepend (front : Bytes) (read : Except FaultAt (Bytes × Bytes)) :
    Except FaultAt (Bytes × Bytes) :=
  read.map fun p => (front ++ p.1, p.2)

theorem prepend_prepend (front back : Bytes) (read : Except FaultAt (Bytes × Bytes)) :
    prepend front (prepend back read) = prepend (front ++ back) read := by
  cases read with
  | error fault => rfl
  | ok p => exact congrArg (fun bytes => Except.ok (bytes, p.2)) (List.append_assoc _ _ _).symm

/-! ## Bytes as they are -/

/-- A byte that stands for itself in a string. -/
def IsPlain (b : UInt8) : Prop :=
  b ≠ byte '"' ∧ ¬ b < 0x20 ∧ b ≠ byte '\\'

theorem readStringBytes_plain {b : UInt8} (h : IsPlain b) (rest : Bytes) :
    readStringBytes (b :: rest) = prepend [b] (readStringBytes rest) := by
  rw [readStringBytes.eq_def]
  dsimp only
  rw [if_neg h.1, if_neg h.2.1, if_pos h.2.2]
  cases readStringBytes rest <;> rfl

theorem readStringBytes_plain_append {bytes : Bytes} (h : ∀ b ∈ bytes, IsPlain b) (rest : Bytes) :
    readStringBytes (bytes ++ rest) = prepend bytes (readStringBytes rest) := by
  induction bytes with
  | nil =>
    show readStringBytes rest = _
    cases readStringBytes rest <;> rfl
  | cons b more ih =>
    rw [List.cons_append, readStringBytes_plain (h b List.mem_cons_self),
      ih fun c hc => h c (List.mem_cons_of_mem _ hc), prepend_prepend]
    rfl

theorem isPlain_of_high {b : UInt8} (h : 128 ≤ b.toNat) : IsPlain b := by
  have hne {c : Char} (hc : (byte c).toNat < 128) : b ≠ byte c := by
    rintro rfl
    omega
  refine ⟨hne (by decide), ?_, hne (by decide)⟩
  rw [UInt8.lt_iff_toNat_lt]
  have hspace : (0x20 : UInt8).toNat = 32 := rfl
  omega

/-- Beyond ASCII all bytes of a character are high. -/
theorem high_of_mem_utf8EncodeChar {c : Char} (hc : 128 ≤ c.toNat) {b : UInt8}
    (hb : b ∈ String.utf8EncodeChar c) : 128 ≤ b.toNat := by
  have hhigh {n : Nat} (hlow : 128 ≤ n) (hlt : n < 256) : 128 ≤ (UInt8.ofNat n).toNat := by
    rw [toNat_ofNat hlt]
    exact hlow
  have hone : ¬ c.val.toNat ≤ 0x7f := Nat.not_le.mpr hc
  unfold String.utf8EncodeChar at hb
  dsimp only at hb
  rw [if_neg hone] at hb
  split at hb
  · simp only [List.mem_cons, List.not_mem_nil, or_false] at hb
    rcases hb with rfl | rfl <;> exact hhigh (by omega) (by omega)
  split at hb
  · simp only [List.mem_cons, List.not_mem_nil, or_false] at hb
    rcases hb with rfl | rfl | rfl <;> exact hhigh (by omega) (by omega)
  · simp only [List.mem_cons, List.not_mem_nil, or_false] at hb
    rcases hb with rfl | rfl | rfl | rfl <;> exact hhigh (by omega) (by omega)

/-- A character that is no quote, no backslash and no control character stands for itself. -/
theorem isPlain_of_mem {c : Char} (hquote : c ≠ '"') (hslash : c ≠ '\\') (hspace : ¬ c.toNat < 0x20)
    {b : UInt8} (hb : b ∈ String.utf8EncodeChar c) : IsPlain b := by
  by_cases hc : c.toNat < 128
  · rw [utf8EncodeChar_ascii hc] at hb
    obtain rfl := List.mem_singleton.mp hb
    have hvalue : (byte c).toNat = c.toNat := byte_toNat (by omega)
    have hne {d : Char} (hcd : c ≠ d) (hd : d.toNat < 256) : byte c ≠ byte d := by
      intro heq
      have hnat : c.toNat = d.toNat := by rw [← hvalue, heq, byte_toNat hd]
      exact hcd (by rw [← Char.ofNat_toNat c, hnat, Char.ofNat_toNat])
    refine ⟨hne hquote (by decide), ?_, hne hslash (by decide)⟩
    show ¬ byte c < 0x20
    rw [UInt8.lt_iff_toNat_lt, hvalue]
    exact hspace
  · exact isPlain_of_high (high_of_mem_utf8EncodeChar (by omega) hb)

/-! ## Escapes -/

theorem readStringBytes_escape {c b : UInt8} (h : simpleEscape? c = some b) (rest : Bytes) :
    readStringBytes (byte '\\' :: c :: rest) = prepend [b] (readStringBytes rest) := by
  rw [readStringBytes.eq_def]
  dsimp only
  rw [if_neg (by decide), if_neg (by decide), if_neg (fun hne => hne rfl)]
  rw [h]
  cases readStringBytes rest <;> rfl

theorem hexOf?_hexDigit {n : Nat} (h : n < 16) : hexOf? (byte (Text.hexDigit n)) = some n := by
  have hall : ∀ n < 16, hexOf? (byte (Text.hexDigit n)) = some n := by decide
  exact hall n h

theorem readStringBytes_unit {n : Nat} (h : n < 0xD800) (rest : Bytes) :
    readStringBytes ((unitEscape n).map byte ++ rest) =
      prepend (String.utf8EncodeChar (Char.ofNat n)) (readStringBytes rest) := by
  have hdigits := @hexOf?_hexDigit
  have hunit : hexUnit (byte (Text.hexDigit (n / 16 / 16 / 16 % 16)))
      (byte (Text.hexDigit (n / 16 / 16 % 16))) (byte (Text.hexDigit (n / 16 % 16)))
      (byte (Text.hexDigit (n % 16))) rest = .ok n := by
    unfold hexUnit
    rw [hdigits (Nat.mod_lt _ (by decide)), hdigits (Nat.mod_lt _ (by decide)),
      hdigits (Nat.mod_lt _ (by decide)), hdigits (Nat.mod_lt _ (by decide))]
    dsimp only [Text.hexDigitsValue, List.foldl]
    congr 1
    omega
  have htrail : isTrailUnit n = false := by
    rw [isTrailUnit, Bool.and_eq_false_iff, decide_eq_false_iff_not]
    omega
  have hlead : isLeadUnit n = false := by
    rw [isLeadUnit, Bool.and_eq_false_iff, decide_eq_false_iff_not]
    omega
  show readStringBytes (byte '\\' :: byte 'u' :: _ :: _ :: _ :: _ :: rest) = _
  rw [readStringBytes.eq_def]
  dsimp only
  rw [if_neg (by decide), if_neg (by decide), if_neg (fun hne => hne rfl)]
  have hletter : simpleEscape? (byte 'u') = none := by decide
  rw [hletter]
  dsimp only
  rw [if_neg (fun hne => hne rfl), hunit]
  show (if _ then _ else if _ then _ else (readStringBytes rest >>= _)) = _
  rw [htrail, hlead, if_neg Bool.false_ne_true, if_neg Bool.false_ne_true]
  cases readStringBytes rest <;> rfl

/-! ## Characters and strings -/

theorem flatMap_charText_escape {c : Char} (hc : c.toNat < 128) :
    ['\\', c].flatMap String.utf8EncodeChar = [byte '\\', byte c] := by
  rw [List.flatMap_cons, List.flatMap_cons, utf8EncodeChar_ascii hc,
    utf8EncodeChar_ascii (by decide)]
  rfl

theorem flatMap_unitEscape (n : Nat) :
    (unitEscape n).flatMap String.utf8EncodeChar = (unitEscape n).map byte := by
  refine flatMap_ascii fun c hc => ?_
  have hdigit : ∀ n < 16, (Text.hexDigit n).toNat < 128 := by decide
  simp only [unitEscape, Text.hex, List.mem_cons, List.nil_append, List.mem_append,
    List.not_mem_nil, or_false] at hc
  rcases hc with rfl | rfl | ((rfl | rfl) | rfl) | rfl
  · decide
  · decide
  all_goals exact hdigit _ (Nat.mod_lt _ (by decide))

/-- A character is read back from its text, whether it is escaped or not. -/
theorem readStringBytes_charText (c : Char) (rest : Bytes) :
    readStringBytes ((charText false c).flatMap String.utf8EncodeChar ++ rest) =
      prepend (String.utf8EncodeChar c) (readStringBytes rest) := by
  have hescape {d : Char} (hd : d.toNat < 128) (hc : c.toNat < 128)
      (hescape : simpleEscape? (byte d) = some (byte c)) :
      readStringBytes (['\\', d].flatMap String.utf8EncodeChar ++ rest) =
        prepend (String.utf8EncodeChar c) (readStringBytes rest) := by
    rw [flatMap_charText_escape hd, utf8EncodeChar_ascii hc]
    exact readStringBytes_escape hescape rest
  unfold charText
  split_ifs with hself hbackspace hformfeed hnewline hreturn htab hspace hascii
  · rcases hself with rfl | rfl <;> exact hescape (by decide) (by decide) (by decide)
  · subst hbackspace
    exact hescape (by decide) (by decide) (by decide)
  · subst hformfeed
    exact hescape (by decide) (by decide) (by decide)
  · subst hnewline
    exact hescape (by decide) (by decide) (by decide)
  · subst hreturn
    exact hescape (by decide) (by decide) (by decide)
  · subst htab
    exact hescape (by decide) (by decide) (by decide)
  · rw [flatMap_unitEscape, readStringBytes_unit (by omega), Char.ofNat_toNat]
  · cases hascii
  · rw [List.flatMap_singleton]
    refine readStringBytes_plain_append (fun b hb => ?_) rest
    exact isPlain_of_mem (fun h => hself (.inl h)) (fun h => hself (.inr h)) hspace hb

theorem readStringBytes_chars (cs : List Char) (rest : Bytes) :
    readStringBytes ((cs.flatMap (charText false)).flatMap String.utf8EncodeChar ++
        byte '"' :: rest) = .ok (cs.flatMap String.utf8EncodeChar, rest) := by
  induction cs with
  | nil =>
    show readStringBytes (byte '"' :: rest) = _
    rw [readStringBytes.eq_def]
    rfl
  | cons c more ih =>
    rw [List.flatMap_cons, List.flatMap_append, List.append_assoc, readStringBytes_charText, ih]
    rfl

theorem encode_stringText (s : String) (rest : Bytes) :
    encode (stringText false s) ++ rest =
      byte '"' :: ((s.toList.flatMap (charText false)).flatMap String.utf8EncodeChar ++
        byte '"' :: rest) := by
  have hquote : String.utf8EncodeChar '"' = [byte '"'] := utf8EncodeChar_ascii (by decide)
  unfold stringText
  rw [encode_ofList, List.flatMap_append, List.flatMap_cons, List.flatMap_singleton, hquote,
    List.append_assoc, List.append_assoc]
  rfl

theorem readString_stringText (s : String) (rest : Bytes) :
    readString ((s.toList.flatMap (charText false)).flatMap String.utf8EncodeChar ++
      byte '"' :: rest) = .ok (s, rest) := by
  unfold readString
  rw [readStringBytes_chars]
  have hdecode : decode (s.toList.flatMap String.utf8EncodeChar) = .ok s := decode_encode s
  simp only [bind, Except.bind, hdecode]

end Json
end Schematic
