import Mathlib.Algebra.Ring.Nat
import Schematic.Coercion
import Schematic.Proofs.Outcome
import Schematic.Proofs.Text.Digit

/-!
Timestamps are read back as they are written.  A number is written with a fixed width and read
with the same one, so each part of a text is followed through on its own; `parse_format` puts the
parts together.  The offset is written in hours and minutes, and so it has to be a whole number
of minutes, as every offset is that was read from a timestamp.
-/

namespace Schematic
namespace Time

open Text (decimalDigit? decimalDigits? digitsValue)

/-! ## Numbers of a fixed width -/

theorem decimals_length (width n : Nat) : (decimals width n).length = width := by
  induction width generalizing n with
  | zero => rfl
  | succ width ih =>
    rw [decimals, List.length_append, ih]
    rfl

/-- The digits that are written are read, and they denote the last digits of the number. -/
theorem decimalDigits?_decimals (width n : Nat) :
    ∃ digits, decimalDigits? (decimals width n) = some digits ∧ digits.length = width ∧
      digitsValue digits = n % 10 ^ width := by
  induction width generalizing n with
  | zero => exact ⟨[], rfl, rfl, by rw [Nat.pow_zero, Nat.mod_one]; rfl⟩
  | succ width ih =>
    obtain ⟨digits, hdigits, hlength, hvalue⟩ := ih (n / 10)
    have hlast := Text.decimalDigit?_digitChar (Nat.mod_lt n (show 0 < 10 by decide))
    refine ⟨digits ++ [n % 10], ?_, by rw [List.length_append, hlength]; rfl, ?_⟩
    · rw [decimals]
      unfold decimalDigits? at hdigits ⊢
      rw [List.mapM_append, hdigits]
      simp [hlast]
    · rw [Text.digitsValue_append, hvalue, Nat.pow_succ', Nat.mod_mul]
      omega

theorem decimals_isDigit {width n : Nat} {c : Char} (h : c ∈ decimals width n) :
    (decimalDigit? c).isSome = true := by
  induction width generalizing n with
  | zero => cases h
  | succ width ih =>
    rw [decimals, List.mem_append] at h
    rcases h with hinit | hlast
    · exact ih hinit
    · obtain rfl := List.mem_singleton.mp hlast
      rw [Text.decimalDigit?_digitChar (Nat.mod_lt n (by decide))]
      rfl

namespace Rfc3339

theorem takeNumber?_decimals (width n : Nat) (rest : List Char) :
    takeNumber? width (decimals width n ++ rest) = some (n % 10 ^ width, rest) := by
  obtain ⟨digits, hdigits, -, hvalue⟩ := decimalDigits?_decimals width n
  have htake : (decimals width n ++ rest).take width = decimals width n :=
    List.take_left' (decimals_length width n)
  have hdrop : (decimals width n ++ rest).drop width = rest :=
    List.drop_left' (decimals_length width n)
  rw [takeNumber?, htake, hdrop, if_pos (decimals_length width n), hdigits, Option.map_some,
    hvalue]

/-! ## Fractions -/

/-- A text that follows a fraction: it starts neither with a digit nor with a point. -/
def EndsFraction : List Char → Prop
  | [] => True
  | c :: _ => decimalDigit? c = none ∧ c ≠ '.'

theorem takeFraction?_fractionText {microsecond : Nat} (hlt : microsecond < 1000000)
    {rest : List Char} (hrest : EndsFraction rest) :
    ∃ digits, takeFraction? (fractionText microsecond ++ rest) = some (digits, rest) ∧
      (microsecondsOf digits).val = microsecond := by
  by_cases hzero : microsecond = 0
  · subst hzero
    refine ⟨[], ?_, rfl⟩
    cases rest with
    | nil => rfl
    | cons c rest =>
      show takeFraction? (c :: rest) = _
      unfold takeFraction?
      split
      next heq => exact absurd (List.cons.inj heq).1 hrest.2
      next => rfl
  · obtain ⟨digits, hdigits, hlength, hvalue⟩ := decimalDigits?_decimals 6 microsecond
    have hhead : (decimals 6 microsecond ++ rest).takeWhile
        (fun c => (decimalDigit? c).isSome) = decimals 6 microsecond := by
      rw [List.takeWhile_append_of_pos fun c hc => decimals_isDigit hc]
      cases rest with
      | nil => simp
      | cons c rest => simp [hrest.1]
    refine ⟨digits, ?_, ?_⟩
    · rw [fractionText, if_neg hzero]
      show takeFraction? ('.' :: (decimals 6 microsecond ++ rest)) = _
      have hne : (decimals 6 microsecond).isEmpty = false := by
        rw [List.isEmpty_eq_false_iff, ← List.length_pos_iff, decimals_length]
        decide
      simp only [takeFraction?, hhead, hne, hdigits, Bool.false_eq_true, if_false]
      rw [Option.map_some, List.drop_left' (by rfl)]
    · have htake : (digits ++ [0, 0, 0, 0, 0, 0]).take 6 = digits := List.take_left' hlength
      rw [microsecondsOf, htake, hvalue]
      show microsecond % 10 ^ 6 % 1000000 = microsecond
      omega

end Rfc3339

/-! ## Offsets -/

/-- The offset is a number of hours and minutes. -/
def Offset.IsWholeMinutes (offset : Offset) : Prop :=
  offset.microseconds.natAbs % 60000000 = 0

theorem Offset.utc_isWholeMinutes : Offset.utc.IsWholeMinutes := rfl

/-- An offset of whole minutes in hours and minutes. -/
theorem Offset.IsWholeMinutes.minutes {offset : Offset} (h : offset.IsWholeMinutes) :
    ∃ minutes, minutes < 1440 ∧ offset.microseconds.natAbs = minutes * 60000000 := by
  have hrange := offset.range
  refine ⟨offset.microseconds.natAbs / 60000000, ?_, ?_⟩
  · unfold dayLength at hrange
    omega
  · unfold Offset.IsWholeMinutes at h
    omega

theorem Offset.iso_of_minutes {offset : Offset} {minutes : Nat}
    (h : offset.microseconds.natAbs = minutes * 60000000) :
    offset.iso = (if offset.microseconds < 0 then '-' else '+') ::
      decimals 2 (minutes / 60) ++ ':' :: decimals 2 (minutes % 60) := by
  have hseconds : minutes * 60000000 / 1000000 = minutes * 60 := by omega
  have hhours : minutes * 60 / 3600 = minutes / 60 := by omega
  have hminutes : minutes * 60 / 60 % 60 = minutes % 60 := by omega
  have hwhole : minutes * 60000000 % 60000000 = 0 := by omega
  simp only [Offset.iso, h, hseconds, hhours, hminutes, hwhole, if_true, List.append_nil]

/-- The offset of hours and minutes that make up its length. -/
theorem Offset.ofMinutes?_eq {offset : Offset} {minutes : Nat}
    (h : offset.microseconds.natAbs = minutes * 60000000) :
    Offset.ofMinutes? (decide (offset.microseconds < 0)) (minutes / 60) (minutes % 60) =
      some offset := by
  have hrange := offset.range
  have hlength : (if decide (offset.microseconds < 0) = true then
      -(((minutes / 60 * 60 + minutes % 60 : Nat) : Int) * 60000000)
      else ((minutes / 60 * 60 + minutes % 60 : Nat) : Int) * 60000000) = offset.microseconds := by
    by_cases hneg : offset.microseconds < 0
    · rw [if_pos (decide_eq_true hneg)]
      omega
    · rw [if_neg (by simpa using hneg)]
      omega
  rw [Offset.ofMinutes?, hlength, Offset.of?, dif_pos hrange]

theorem Offset.microseconds_of? {microseconds : Int} {offset : Offset}
    (h : Offset.of? microseconds = some offset) : offset.microseconds = microseconds := by
  unfold Offset.of? at h
  split at h
  next => exact Option.some.inj h ▸ rfl
  next => cases h

/-- Whatever hours and minutes make is an offset of whole minutes. -/
theorem Offset.isWholeMinutes_of_ofMinutes? {negative : Bool} {hours minutes : Nat}
    {offset : Offset} (h : Offset.ofMinutes? negative hours minutes = some offset) :
    offset.IsWholeMinutes := by
  have hlength := Offset.microseconds_of? h
  rw [Offset.IsWholeMinutes, hlength]
  split <;> omega

namespace Rfc3339

theorem readOffset?_iso {offset : Offset} {minutes : Nat} (hlt : minutes < 1440)
    (h : offset.microseconds.natAbs = minutes * 60000000) :
    readOffset? offset.iso =
      some (decide (offset.microseconds < 0), minutes / 60, minutes % 60) := by
  obtain ⟨hours, hhours, -, hhoursValue⟩ := decimalDigits?_decimals 2 (minutes / 60)
  obtain ⟨rest, hrest, -, hrestValue⟩ := decimalDigits?_decimals 2 (minutes % 60)
  have hh : minutes / 60 % 10 ^ 2 = minutes / 60 := by omega
  have hm : minutes % 60 % 10 ^ 2 = minutes % 60 := by omega
  rw [Offset.iso_of_minutes h]
  simp only [decimals, List.nil_append, List.cons_append] at hhours hrest ⊢
  simp only [readOffset?, hhours, hrest, Option.bind_eq_bind, Option.bind_some, hhoursValue,
    hrestValue, hh, hm]
  by_cases hneg : offset.microseconds < 0
  · simp [hneg]
  · simp [hneg]

theorem offsetOf_iso {offset : Offset} (h : offset.IsWholeMinutes) :
    offsetOf offset.iso = .ok offset := by
  obtain ⟨minutes, hlt, hminutes⟩ := h.minutes
  have hrange : ¬ (minutes / 60 > 23 ∨ minutes % 60 > 59) := by omega
  rw [offsetOf, readOffset?_iso hlt hminutes]
  simp only [if_neg hrange, Offset.ofMinutes?_eq hminutes]

/-- The offset of a timestamp is a number of hours and minutes. -/
theorem isWholeMinutes_of_offsetOf {s : List Char} {offset : Offset}
    (h : offsetOf s = .ok offset) : offset.IsWholeMinutes := by
  unfold offsetOf at h
  split at h
  next => exact Except.ok.inj h ▸ Offset.utc_isWholeMinutes
  next =>
    split at h
    next => cases h
    next =>
      split at h
      next hmake => exact Except.ok.inj h ▸ Offset.isWholeMinutes_of_ofMinutes? hmake
      next => cases h

/-! ## Whole timestamps -/

/-- The written offset of a timestamp. -/
def offsetText (offset : Offset) : List Char :=
  if offset = Offset.utc then ['Z'] else offset.iso

theorem offsetText_endsFraction (offset : Offset) : EndsFraction (offsetText offset) := by
  unfold offsetText
  split
  · exact ⟨by decide, by decide⟩
  · show EndsFraction ((if offset.microseconds < 0 then '-' else '+') :: _)
    split
    · exact ⟨by decide, by decide⟩
    · exact ⟨by decide, by decide⟩

theorem offsetText_isOffset {offset : Offset} (h : offset.IsWholeMinutes) :
    offsetText offset = ['Z'] ∨ (readOffset? (offsetText offset)).isSome = true := by
  unfold offsetText
  split
  · exact .inl rfl
  · obtain ⟨minutes, hlt, hminutes⟩ := h.minutes
    exact .inr (by rw [readOffset?_iso hlt hminutes]; rfl)

theorem offsetOf_offsetText {offset : Offset} (h : offset.IsWholeMinutes) :
    offsetOf (offsetText offset) = .ok offset := by
  unfold offsetText
  split
  next heq => exact heq ▸ rfl
  next => exact offsetOf_iso h

theorem date_of (d : Date) : Date.of d.year d.month d.day = .ok d := by
  rw [Date.of, dif_pos d.year_range, dif_pos d.month_range, dif_pos d.day_range]

theorem timeOfDay_of (t : TimeOfDay) {microsecond : Fin 1000000}
    (h : microsecond.val = t.microsecond) :
    TimeOfDay.of t.hour t.minute t.second microsecond = .ok t := by
  rw [TimeOfDay.of, dif_pos t.hour_lt, dif_pos t.minute_lt, dif_pos t.second_lt]
  obtain ⟨hour, minute, second, micro, _, _, _, _⟩ := t
  obtain rfl : microsecond.val = micro := h
  rfl

/-- A text is read as a number, whatever follows. -/
def Takes (width n : Nat) (head : List Char) : Prop :=
  ∀ rest, takeNumber? width (head ++ rest) = some (n, rest)

theorem takes_decimals {width n : Nat} (h : n < 10 ^ width) : Takes width n (decimals width n) := by
  intro rest
  rw [takeNumber?_decimals, Nat.mod_eq_of_lt h]

theorem bind_of_some {α β : Type} {x : Option α} {f : α → Option β} {a : α} {result : Option β}
    (hx : x = some a) (hf : f a = result) : x >>= f = result := by
  rw [hx]
  exact hf

/-- The parts of a text that is made of them. -/
theorem parts?_of {y mo d h mi s : Nat} {year month day hour minute second rest offset : List Char}
    {digits : List Nat} (hyear : Takes 4 y year) (hmonth : Takes 2 mo month) (hday : Takes 2 d day)
    (hhour : Takes 2 h hour) (hminute : Takes 2 mi minute) (hsecond : Takes 2 s second)
    (hfraction : takeFraction? rest = some (digits, offset))
    (hoffset : offset = ['Z'] ∨ (readOffset? offset).isSome) :
    parts? (year ++ '-' :: (month ++ '-' :: (day ++ 'T' :: (hour ++ ':' :: (minute ++ ':' ::
      (second ++ rest)))))) = some ⟨y, mo, d, h, mi, s, digits, offset⟩ := by
  have hexpect (c : Char) (s : List Char) : expect? c (c :: s) = some s := if_pos rfl
  exact bind_of_some (hyear _) <| bind_of_some (hexpect _ _) <|
    bind_of_some (hmonth _) <| bind_of_some (hexpect _ _) <|
    bind_of_some (hday _) <| bind_of_some (hexpect _ _) <|
    bind_of_some (hhour _) <| bind_of_some (hexpect _ _) <|
    bind_of_some (hminute _) <| bind_of_some (hexpect _ _) <|
    bind_of_some (hsecond _) <| bind_of_some hfraction <| if_pos hoffset

/-- The parts of a written point in time. -/
theorem parts?_format {d : DateTime} {offset : Offset} (hoffset : d.offset.getD .utc = offset)
    (hminutes : offset.IsWholeMinutes) :
    ∃ digits, parts? (format d) = some ⟨d.date.year, d.date.month, d.date.day, d.time.hour,
        d.time.minute, d.time.second, digits, offsetText offset⟩ ∧
      (microsecondsOf digits).val = d.time.microsecond := by
  obtain ⟨digits, hfraction, hmicro⟩ :=
    takeFraction?_fractionText d.time.microsecond_lt (offsetText_endsFraction offset)
  refine ⟨digits, ?_, hmicro⟩
  have hformat : format d = decimals 4 d.date.year ++ '-' :: (decimals 2 d.date.month ++
      '-' :: (decimals 2 d.date.day ++ 'T' :: (decimals 2 d.time.hour ++
      ':' :: (decimals 2 d.time.minute ++ ':' :: (decimals 2 d.time.second ++
      (fractionText d.time.microsecond ++ offsetText offset)))))) := by
    simp [format, DateTime.iso, DateTime.isoWith, Date.iso, TimeOfDay.iso, offsetText, hoffset,
      List.append_assoc]
  have hyear := d.date.year_range
  have hmonth := d.date.month_range
  have hday := d.date.day_range
  have hmax : daysInMonth d.date.year d.date.month ≤ 31 := by
    unfold daysInMonth
    split
    · split <;> omega
    · split <;> omega
  have hhour := d.time.hour_lt
  have hminute := d.time.minute_lt
  have hsecond := d.time.second_lt
  rw [hformat]
  exact parts?_of (takes_decimals (by omega)) (takes_decimals (by omega)) (takes_decimals (by omega))
    (takes_decimals (by omega)) (takes_decimals (by omega)) (takes_decimals (by omega)) hfraction
    (offsetText_isOffset hminutes)

/-- A point in time is read back from its text, a naive one with the offset at which it was
written. -/
theorem parse_format {d : DateTime} {offset : Offset} (hoffset : d.offset.getD .utc = offset)
    (hminutes : offset.IsWholeMinutes) :
    parse (format d) = .ok { d with offset := some offset } := by
  obtain ⟨digits, hparts, hmicro⟩ := parts?_format hoffset hminutes
  simp only [parse, hparts, offsetOf_offsetText hminutes, date_of, timeOfDay_of d.time hmicro]
  rfl

theorem offset_of_parse {s : List Char} {d : DateTime} (h : parse s = .ok d) :
    ∃ offset, d.offset = some offset ∧ offset.IsWholeMinutes := by
  unfold parse at h
  split at h
  next => cases h
  next p _ =>
    cases hoffset : offsetOf p.offset with
    | error e => rw [hoffset] at h; cases h
    | ok offset =>
      rw [hoffset] at h
      refine ⟨offset, ?_, isWholeMinutes_of_offsetOf hoffset⟩
      cases hdate : Date.of p.year p.month p.day with
      | error e => rw [hdate] at h; cases h
      | ok date =>
        rw [hdate] at h
        cases htime : TimeOfDay.of p.hour p.minute p.second (microsecondsOf p.fraction) with
        | error e => rw [htime] at h; cases h
        | ok time =>
          rw [htime] at h
          exact Except.ok.inj h ▸ rfl

end Rfc3339
end Time

namespace Coercion

theorem offset_of_parseDateTime {text : String} {d : DateTime} (h : parseDateTime text = .ok d) :
    ∃ offset, d.offset = some offset ∧ offset.IsWholeMinutes :=
  Time.Rfc3339.offset_of_parse (Outcome.mapError_eq_ok h)

/-- A point in time is read back from its text, a naive one as one in UTC. -/
theorem parseDateTime_rfc3339 {d : DateTime} {offset : Time.Offset}
    (hoffset : d.offset.getD .utc = offset) (hminutes : offset.IsWholeMinutes) :
    parseDateTime d.rfc3339 = .ok { d with offset := some offset } := by
  rw [parseDateTime, DateTime.rfc3339, String.toList_ofList,
    Time.Rfc3339.parse_format hoffset hminutes]
  rfl

end Coercion
end Schematic
