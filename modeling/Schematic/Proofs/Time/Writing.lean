import Schematic.Proofs.Time.Grammar

/-!
Points in time are written as their ISO texts, with `Z` in the place of an offset of zero
(`format_eq_iso`).  The texts are read back, and they end in `Z` for an offset of zero alone
(`read_back`).
-/

namespace Schematic
namespace Time

/-! ## Offsets of zero -/

/-- The ISO text of an offset of zero. -/
def zeroIso : List Char :=
  ['+', '0', '0', ':', '0', '0']

theorem digitChar_eq_zero {n : Nat} (hlt : n < 10) (h : Text.digitChar n = '0') : n = 0 := by
  have heq := congrArg Text.decimalDigit? h
  rw [Text.decimalDigit?_digitChar hlt] at heq
  exact Option.some.inj (heq.trans (by decide))

theorem decimals_two_eq_zero {n : Nat} (h : decimals 2 n = ['0', '0']) : n % 100 = 0 := by
  have hdigits : [Text.digitChar (n / 10 % 10), Text.digitChar (n % 10)] = ['0', '0'] := h
  simp only [List.cons.injEq, and_true] at hdigits
  have htens := digitChar_eq_zero (Nat.mod_lt _ (by decide)) hdigits.1
  have hones := digitChar_eq_zero (Nat.mod_lt _ (by decide)) hdigits.2
  omega

/-- The last six characters of the text of an offset are those of zero for the offset zero alone. -/
theorem Offset.iso_ending (offset : Offset) : ∃ ahead ending, offset.iso = ahead ++ ending ∧
    ending.length = 6 ∧ (ending = zeroIso → offset = .utc) := by
  let length := offset.microseconds.natAbs
  let sign := if offset.microseconds < 0 then '-' else '+'
  let hours := decimals 2 (length / 1000000 / 3600)
  let minutes := decimals 2 (length / 1000000 / 60 % 60)
  let seconds := decimals 2 (length / 1000000 % 60)
  have hiso : offset.iso = sign :: hours ++ ':' :: minutes ++
      (if length % 60000000 = 0 then [] else ':' :: seconds ++ fractionText (length % 1000000)) := rfl
  by_cases hminutes : length % 60000000 = 0
  · refine ⟨[], sign :: hours ++ ':' :: minutes, ?_, rfl, ?_⟩
    · rw [hiso, if_pos hminutes, List.append_nil, List.nil_append]
    · intro hzero
      obtain ⟨hsign, hclock⟩ := List.cons.inj hzero
      have hparts : hours = ['0', '0'] ∧ ':' :: minutes = [':', '0', '0'] :=
        List.append_inj hclock rfl
      have hhours := decimals_two_eq_zero hparts.1
      have hrest := decimals_two_eq_zero (List.cons.inj hparts.2).2
      have hrange : length < dayLength := offset.range
      have hlength : length = 0 := by
        unfold dayLength at hrange
        omega
      obtain ⟨microseconds, range⟩ := offset
      obtain rfl := Int.natAbs_eq_zero.mp hlength
      rfl
  · rw [if_neg hminutes] at hiso
    by_cases hfraction : length % 1000000 = 0
    · refine ⟨sign :: hours, ':' :: minutes ++ ':' :: seconds, ?_, rfl, ?_⟩
      · rw [hiso, fractionText, if_pos hfraction]
        simp
      · intro hcolon
        exact absurd (List.cons.inj hcolon).1 (by decide)
    · refine ⟨sign :: hours ++ ':' :: minutes ++ (':' :: seconds ++ ['.']),
        decimals 6 (length % 1000000), ?_, rfl, ?_⟩
      · rw [hiso, fractionText, if_neg hfraction]
        simp
      · intro hplus
        have hmem : '+' ∈ decimals 6 (length % 1000000) := by
          rw [hplus]
          exact List.mem_cons_self
        have hdigit : (Text.decimalDigit? '+').isSome = true := decimals_isDigit hmem
        exact absurd hdigit (by decide)

theorem Offset.utc_iso : Offset.utc.iso = zeroIso := by
  decide

namespace Rfc3339

/-- The text of a point in time is its ISO text, a naive one taken at UTC, with `Z` in the place of an
offset of zero at its end. -/
theorem format_eq_iso (d : DateTime) :
    let text := DateTime.iso { d with offset := some (d.offset.getD .utc) }
    format d = if zeroIso <:+ text then text.take (text.length - 6) ++ ['Z'] else text := by
  intro text
  let clock := DateTime.iso { d with offset := none }
  have htext : text = clock ++ (d.offset.getD .utc).iso := by
    simp [text, clock, DateTime.iso, DateTime.isoWith]
  by_cases hzero : d.offset.getD .utc = .utc
  · have hformat : format d = clock ++ ['Z'] := by
      rw [format]
      simp only [if_pos hzero]
      rfl
    rw [hzero, Offset.utc_iso] at htext
    have hclock : text.take (text.length - 6) = clock := by
      rw [htext, List.length_append]
      exact List.take_left' (by simp [zeroIso])
    rw [if_pos (htext ▸ List.suffix_append _ _), hclock, hformat]
  · have hformat : format d = text := by
      rw [format, htext]
      simp only [if_neg hzero]
      rfl
    rw [if_neg, hformat]
    rintro ⟨before, hbefore⟩
    obtain ⟨ahead, ending, hiso, hlength, hutc⟩ := (d.offset.getD .utc).iso_ending
    rw [htext, hiso, ← List.append_assoc] at hbefore
    exact hzero (hutc (List.append_inj_right' hbefore hlength.symm).symm)

/-- A text ends in `Z` for an offset of zero alone. -/
theorem format_ending {d : DateTime} (hminutes : (d.offset.getD .utc).IsWholeMinutes) :
    (format d).getLast? = some 'Z' ↔ d.offset.getD .utc = .utc := by
  obtain ⟨minutes, -, hlength⟩ := hminutes.minutes
  by_cases hzero : d.offset.getD .utc = .utc
  · simp [format, hzero]
  · have hlast : (format d).getLast? = some (Text.digitChar (minutes % 60 % 10)) := by
      rw [format]
      simp only [if_neg hzero, Offset.iso_of_minutes hlength]
      simp [decimals]
    rw [hlast]
    have hdigit := Text.decimalDigit?_digitChar (Nat.mod_lt (minutes % 60) (show 0 < 10 by decide))
    refine iff_of_false ?_ hzero
    intro hZ
    have hnone : Text.decimalDigit? 'Z' = none := by decide
    rw [Option.some.inj hZ, hnone] at hdigit
    cases hdigit

end Rfc3339
end Time

namespace Coercion

/-- Points in time are read back from their texts, and the texts of points that were read, which end in
`Z` for an offset of zero alone, are read as the same points. -/
theorem read_back (d : DateTime) (h : ∀ offset ∈ d.offset, offset.IsWholeMinutes) :
    datetime.coerce (.str d.rfc3339) =
        .ok (.datetime { d with offset := some (d.offset.getD .utc) }) ∧
      ∀ text value, datetime.coerce (.str text) = .ok value → ∃ found offset,
        value = .datetime found ∧ found.offset = some offset ∧
        datetime.coerce (.str found.rfc3339) = .ok value ∧
        (found.rfc3339.toList.getLast? = some 'Z' ↔ offset = .utc) := by
  have hminutes : (d.offset.getD .utc).IsWholeMinutes := by
    cases hoffset : d.offset with
    | none => exact Time.Offset.utc_isWholeMinutes
    | some offset => exact h offset hoffset
  refine ⟨coerce_datetime_eq_ok_iff.mpr ⟨_, rfl, parseDateTime_rfc3339 rfl hminutes⟩, ?_⟩
  intro text value hvalue
  obtain ⟨found, rfl, hfound⟩ := coerce_datetime_eq_ok_iff.mp hvalue
  obtain ⟨offset, hoffset, hwhole⟩ := offset_of_parseDateTime hfound
  have hgiven : found.offset.getD .utc = offset := by rw [hoffset]; rfl
  -- A point that was read has an offset, so nothing is added to it on the way back.
  have hsame : { found with offset := some offset } = found := by rw [← hoffset]
  have hread := parseDateTime_rfc3339 hgiven hwhole
  rw [hsame] at hread
  refine ⟨found, offset, rfl, hoffset, coerce_datetime_eq_ok_iff.mpr ⟨found, rfl, hread⟩, ?_⟩
  rw [← hgiven] at hwhole ⊢
  rw [DateTime.rfc3339, String.toList_ofList]
  exact Time.Rfc3339.format_ending hwhole

/-- The last microsecond of a leap day, half an hour off a whole number of hours behind UTC. -/
def leapDayEnd : DateTime where
  date := ⟨2024, 2, 29, by decide, by decide, by decide⟩
  time := ⟨23, 59, 59, 999999, by decide, by decide, by decide, by decide⟩
  offset := some ⟨-27000000000, by decide⟩

theorem read_back_leapDayEnd :
    (∀ offset ∈ leapDayEnd.offset, offset.IsWholeMinutes) ∧
      leapDayEnd.rfc3339 = "2024-02-29T23:59:59.999999-07:30" ∧
      datetime.coerce (.str leapDayEnd.rfc3339) = .ok (.datetime leapDayEnd) := by
  have hminutes : ∀ offset ∈ leapDayEnd.offset, offset.IsWholeMinutes := by
    intro offset hoffset
    obtain rfl := Option.some.inj hoffset
    show _ % 60000000 = 0
    decide
  exact ⟨hminutes, by decide, (read_back leapDayEnd hminutes).1⟩

end Coercion
end Schematic
