import Schematic.Text.Utf8

/-!
A text is read back from its bytes.  The four ranges of characters have sequences of one to four
bytes, and the tests on the first two bytes tell the ranges apart.
-/

namespace Schematic
namespace Text
namespace Utf8

theorem encode_append (s t : String) : encode (s ++ t) = encode s ++ encode t := by
  unfold encode
  rw [String.toList_append, List.flatMap_append]

theorem encode_ofList (cs : List Char) :
    encode (String.ofList cs) = cs.flatMap String.utf8EncodeChar := by
  unfold encode
  rw [String.toList_ofList]

theorem utf8EncodeChar_ascii {c : Char} (h : c.toNat < 128) :
    String.utf8EncodeChar c = [c.toNat.toUInt8] := by
  have hle : c.val.toNat ≤ 0x7f := Nat.le_of_lt_succ h
  unfold String.utf8EncodeChar
  rw [if_pos hle]
  rfl

theorem flatMap_ascii {cs : List Char} (h : ∀ c ∈ cs, c.toNat < 128) :
    cs.flatMap String.utf8EncodeChar = cs.map fun c => c.toNat.toUInt8 := by
  induction cs with
  | nil => rfl
  | cons c rest ih =>
    rw [List.flatMap_cons, List.map_cons, utf8EncodeChar_ascii (h c List.mem_cons_self),
      ih fun d hd => h d (List.mem_cons_of_mem _ hd)]
    rfl

/-! ## The first bytes of a sequence -/

theorem toNat_ofNat {n : Nat} (h : n < 256) : (UInt8.ofNat n).toNat = n := by
  rw [UInt8.toNat_ofNat']
  exact Nat.mod_eq_of_lt h

theorem isTail_iff (b : UInt8) : isTail b = true ↔ 128 ≤ b.toNat ∧ b.toNat ≤ 191 := by
  simp only [isTail, Bool.and_eq_true, decide_eq_true_eq, UInt8.le_iff_toNat_le]
  rfl

theorem startsTwo_iff (a b : UInt8) :
    startsTwo a b = true ↔ 194 ≤ a.toNat ∧ a.toNat ≤ 223 ∧ isTail b = true := by
  simp only [startsTwo, Bool.and_eq_true, decide_eq_true_eq, UInt8.le_iff_toNat_le, and_assoc]
  rfl

theorem startsThree_iff (a b : UInt8) : startsThree a b = true ↔
    (a.toNat = 224 ∧ 160 ≤ b.toNat ∧ b.toNat ≤ 191) ∨
      (a.toNat = 237 ∧ 128 ≤ b.toNat ∧ b.toNat ≤ 159) ∨
      ((225 ≤ a.toNat ∧ a.toNat ≤ 236 ∨ a.toNat = 238 ∨ a.toNat = 239) ∧ isTail b = true) := by
  simp only [startsThree, Bool.and_eq_true, Bool.or_eq_true, beq_iff_eq, decide_eq_true_eq,
    UInt8.le_iff_toNat_le, ← UInt8.toNat_inj, and_assoc, or_assoc]
  rfl

theorem startsFour_iff (a b : UInt8) : startsFour a b = true ↔
    (a.toNat = 240 ∧ 144 ≤ b.toNat ∧ b.toNat ≤ 191) ∨
      (a.toNat = 244 ∧ 128 ≤ b.toNat ∧ b.toNat ≤ 143) ∨
      (241 ≤ a.toNat ∧ a.toNat ≤ 243 ∧ isTail b = true) := by
  simp only [startsFour, Bool.and_eq_true, Bool.or_eq_true, beq_iff_eq, decide_eq_true_eq,
    UInt8.le_iff_toNat_le, ← UInt8.toNat_inj, and_assoc, or_assoc]
  rfl

/-! ## Sequences -/

variable {offset n : Nat} {rest : List UInt8}

theorem decodeFrom_one (h : n < 128) :
    decodeFrom offset (UInt8.ofNat n :: rest) =
      (decodeFrom (offset + 1) rest).map (Char.ofNat n :: ·) := by
  have hn := toNat_ofNat (show n < 256 by omega)
  have hless : UInt8.ofNat n < 0x80 := by
    rw [UInt8.lt_iff_toNat_lt, hn]
    exact h
  rw [decodeFrom.eq_def]
  dsimp only
  rw [if_pos hless, hn]

/-- A byte that starts a longer sequence. -/
theorem not_ascii {a : Nat} (hlow : 128 ≤ a) (hhigh : a < 256) : ¬ UInt8.ofNat a < 0x80 := by
  rw [UInt8.lt_iff_toNat_lt, toNat_ofNat hhigh]
  exact Nat.not_lt.mpr hlow

theorem decodeFrom_two (hlow : 128 ≤ n) (hhigh : n < 2048) :
    decodeFrom offset
        (UInt8.ofNat (n / 64 % 32 + 192) :: UInt8.ofNat (n % 64 + 128) :: rest) =
      (decodeFrom (offset + 2) rest).map (Char.ofNat n :: ·) := by
  have ha := toNat_ofNat (show n / 64 % 32 + 192 < 256 by omega)
  have hb := toNat_ofNat (show n % 64 + 128 < 256 by omega)
  have htwo : startsTwo (UInt8.ofNat (n / 64 % 32 + 192)) (UInt8.ofNat (n % 64 + 128)) = true := by
    rw [startsTwo_iff, isTail_iff, ha, hb]
    omega
  have hvalue : (n / 64 % 32 + 192) % 32 * 64 + (n % 64 + 128) % 64 = n := by omega
  rw [decodeFrom.eq_def]
  dsimp only
  rw [if_neg (not_ascii (by omega) (by omega))]
  rw [if_pos htwo, tailBits, ha, hb, hvalue]

theorem decodeFrom_three (hlow : 2048 ≤ n) (hhigh : n < 65536) (hvalid : n < 55296 ∨ 57343 < n) :
    decodeFrom offset (UInt8.ofNat (n / 4096 % 16 + 224) :: UInt8.ofNat (n / 64 % 64 + 128) ::
        UInt8.ofNat (n % 64 + 128) :: rest) =
      (decodeFrom (offset + 3) rest).map (Char.ofNat n :: ·) := by
  have ha := toNat_ofNat (show n / 4096 % 16 + 224 < 256 by omega)
  have hb := toNat_ofNat (show n / 64 % 64 + 128 < 256 by omega)
  have hc := toNat_ofNat (show n % 64 + 128 < 256 by omega)
  have htwo : ¬ startsTwo (UInt8.ofNat (n / 4096 % 16 + 224))
      (UInt8.ofNat (n / 64 % 64 + 128)) = true := by
    rw [startsTwo_iff, isTail_iff, ha, hb]
    omega
  have hthree : (startsThree (UInt8.ofNat (n / 4096 % 16 + 224)) (UInt8.ofNat (n / 64 % 64 + 128)) &&
      isTail (UInt8.ofNat (n % 64 + 128))) = true := by
    rw [Bool.and_eq_true, startsThree_iff, isTail_iff, isTail_iff, ha, hb, hc]
    omega
  have hvalue : ((n / 4096 % 16 + 224) % 16 * 64 + (n / 64 % 64 + 128) % 64) * 64 +
      (n % 64 + 128) % 64 = n := by omega
  rw [decodeFrom.eq_def]
  dsimp only
  rw [if_neg (not_ascii (by omega) (by omega))]
  rw [if_neg htwo, if_pos hthree, tailBits, tailBits, ha, hb, hc, hvalue]

theorem decodeFrom_four (hlow : 65536 ≤ n) (hhigh : n < 1114112) :
    decodeFrom offset (UInt8.ofNat (n / 262144 % 8 + 240) :: UInt8.ofNat (n / 4096 % 64 + 128) ::
        UInt8.ofNat (n / 64 % 64 + 128) :: UInt8.ofNat (n % 64 + 128) :: rest) =
      (decodeFrom (offset + 4) rest).map (Char.ofNat n :: ·) := by
  have ha := toNat_ofNat (show n / 262144 % 8 + 240 < 256 by omega)
  have hb := toNat_ofNat (show n / 4096 % 64 + 128 < 256 by omega)
  have hc := toNat_ofNat (show n / 64 % 64 + 128 < 256 by omega)
  have hd := toNat_ofNat (show n % 64 + 128 < 256 by omega)
  have htwo : ¬ startsTwo (UInt8.ofNat (n / 262144 % 8 + 240))
      (UInt8.ofNat (n / 4096 % 64 + 128)) = true := by
    rw [startsTwo_iff, isTail_iff, ha, hb]
    omega
  have hthree : ¬ (startsThree (UInt8.ofNat (n / 262144 % 8 + 240))
      (UInt8.ofNat (n / 4096 % 64 + 128)) && isTail (UInt8.ofNat (n / 64 % 64 + 128))) = true := by
    rw [Bool.and_eq_true, startsThree_iff, isTail_iff, isTail_iff, ha, hb, hc]
    omega
  have hfour : (startsFour (UInt8.ofNat (n / 262144 % 8 + 240)) (UInt8.ofNat (n / 4096 % 64 + 128)) &&
      isTail (UInt8.ofNat (n / 64 % 64 + 128)) && isTail (UInt8.ofNat (n % 64 + 128))) = true := by
    rw [Bool.and_eq_true, Bool.and_eq_true, startsFour_iff, isTail_iff, isTail_iff, isTail_iff, ha,
      hb, hc, hd]
    omega
  have hvalue : (((n / 262144 % 8 + 240) % 8 * 64 + (n / 4096 % 64 + 128) % 64) * 64 +
      (n / 64 % 64 + 128) % 64) * 64 + (n % 64 + 128) % 64 = n := by omega
  rw [decodeFrom.eq_def]
  dsimp only
  rw [if_neg (not_ascii (by omega) (by omega))]
  rw [if_neg htwo, if_neg hthree, if_pos hfour, tailBits, tailBits, tailBits, ha, hb, hc, hd, hvalue]

/-- A character is read back in front of other bytes. -/
theorem decodeFrom_utf8EncodeChar (offset : Nat) (c : Char) (rest : List UInt8) :
    ∃ next, decodeFrom offset (String.utf8EncodeChar c ++ rest) =
      (decodeFrom next rest).map (c :: ·) := by
  have hchar : Char.ofNat c.val.toNat = c := Char.ofNat_toNat c
  have hvalid : c.val.toNat < 55296 ∨ 57343 < c.val.toNat ∧ c.val.toNat < 1114112 := c.valid
  generalize hn : c.val.toNat = n at hchar hvalid
  unfold String.utf8EncodeChar
  dsimp only
  rw [hn, ← hchar]
  by_cases hone : n ≤ 0x7f
  · rw [if_pos hone]
    exact ⟨_, decodeFrom_one (by omega)⟩
  · rw [if_neg hone]
    by_cases htwo : n ≤ 0x7ff
    · rw [if_pos htwo]
      exact ⟨_, decodeFrom_two (by omega) (by omega)⟩
    · rw [if_neg htwo]
      by_cases hthree : n ≤ 0xffff
      · rw [if_pos hthree]
        exact ⟨_, decodeFrom_three (by omega) (by omega) (by omega)⟩
      · rw [if_neg hthree]
        exact ⟨_, decodeFrom_four (by omega) (by omega)⟩

/-- A text is read back from its bytes. -/
theorem decode_encode (s : String) : decode (encode s) = .ok s := by
  have hchars (cs : List Char) (offset : Nat) :
      decodeFrom offset (cs.flatMap String.utf8EncodeChar) = .ok cs := by
    induction cs generalizing offset with
    | nil => rfl
    | cons c rest ih =>
      obtain ⟨next, hnext⟩ := decodeFrom_utf8EncodeChar offset c
        (rest.flatMap String.utf8EncodeChar)
      rw [List.flatMap_cons, hnext, ih]
      rfl
  unfold decode encode
  rw [hchars]
  exact congrArg Except.ok String.ofList_toList

end Utf8
end Text
end Schematic
