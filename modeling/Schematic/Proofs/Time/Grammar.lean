import Schematic.Proofs.Outcome
import Schematic.Proofs.Time.Timestamp

/-!
The grammar of timestamps, apart from the reader.  `Timestamp digit? s d` says that the text is one
and that it denotes the point in time, for any notion of what a digit is; dates and times of day carry
their ranges with them.  The fraction of a second is that of all its digits, cut to microseconds.

The reader accepts the timestamps whose digits are those of any script (`parse_eq_ok_iff`).  The
timestamps with the digits 0 to 9 alone are the ASCII texts among them (`timestamp_ascii_iff`).
-/

namespace Schematic
namespace Time
namespace Rfc3339

open Text (Spells decimalDigit? decimalDigits? asciiDigit? digitsValue)

section Grammar

variable (digit? : Char → Option Nat)

/-- A text of `width` digits that spell a number. -/
def Numeral (width n : Nat) (s : List Char) : Prop :=
  ∃ digits, Spells digit? s digits ∧ digits.length = width ∧ digitsValue digits = n

/-- The microseconds of a fraction of a second: none, or a point and at least one digit. -/
inductive Fraction : List Char → Nat → Prop
  | absent : Fraction [] 0
  | present {s : List Char} {digits : List Nat} (h : Spells digit? s digits) (hne : digits ≠ []) :
      Fraction ('.' :: s) (digitsValue digits * 10 ^ 6 / 10 ^ digits.length)

/-- Hours and minutes, in minutes. -/
inductive HoursMinutes : List Char → Nat → Prop
  | of {hours minutes : Nat} {hour minute : List Char} (hhour : Numeral digit? 2 hours hour)
      (hminute : Numeral digit? 2 minutes minute) (hhours : hours ≤ 23) (hminutes : minutes ≤ 59) :
      HoursMinutes (hour ++ ':' :: minute) (hours * 60 + minutes)

/-- The offset of a timestamp. -/
inductive Zone : List Char → Offset → Prop
  | utc : Zone ['Z'] .utc
  | ahead {minutes : Nat} {s : List Char} {offset : Offset} (h : HoursMinutes digit? s minutes)
      (hoffset : offset.microseconds = minutes * 60000000) : Zone ('+' :: s) offset
  | behind {minutes : Nat} {s : List Char} {offset : Offset} (h : HoursMinutes digit? s minutes)
      (hoffset : offset.microseconds = -(minutes * 60000000)) : Zone ('-' :: s) offset

/-- A timestamp, and the point in time that it denotes. -/
inductive Timestamp : List Char → DateTime → Prop
  | of {date : Date} {time : TimeOfDay} {offset : Offset}
      {year month day hour minute second fraction zone : List Char}
      (hyear : Numeral digit? 4 date.year year) (hmonth : Numeral digit? 2 date.month month)
      (hday : Numeral digit? 2 date.day day) (hhour : Numeral digit? 2 time.hour hour)
      (hminute : Numeral digit? 2 time.minute minute)
      (hsecond : Numeral digit? 2 time.second second)
      (hfraction : Fraction digit? fraction time.microsecond) (hzone : Zone digit? zone offset) :
      Timestamp (year ++ '-' :: (month ++ '-' :: (day ++ 'T' :: (hour ++ ':' :: (minute ++ ':' ::
        (second ++ (fraction ++ zone))))))) ⟨date, time, some offset⟩

end Grammar

variable {width n : Nat} {s rest : List Char}

/-! ## Numbers and fractions -/

theorem takeNumber?_eq_some_iff :
    takeNumber? width s = some (n, rest) ↔
      ∃ head, s = head ++ rest ∧ Numeral decimalDigit? width n head := by
  unfold takeNumber?
  constructor
  · intro h
    dsimp only at h
    split at h
    next hlength =>
      obtain ⟨digits, hdigits, heq⟩ := Option.map_eq_some_iff.mp h
      obtain ⟨rfl, rfl⟩ := Prod.mk.inj heq
      have hspells := Text.decimalDigits?_eq_some_iff.mp hdigits
      exact ⟨_, (List.take_append_drop _ _).symm, digits, hspells,
        hspells.length_eq.symm.trans hlength, rfl⟩
    next => cases h
  · rintro ⟨head, rfl, digits, hspells, rfl, rfl⟩
    have hlength := hspells.length_eq
    simp only [List.take_left' hlength, List.drop_left' hlength, if_pos hlength,
      Text.decimalDigits?_eq_some_iff.mpr hspells, Option.map_some]

theorem takeNumber?_append {head : List Char} (h : Numeral decimalDigit? width n head)
    (rest : List Char) : takeNumber? width (head ++ rest) = some (n, rest) :=
  takeNumber?_eq_some_iff.mpr ⟨head, rfl, h⟩

theorem expect?_eq_some_iff {c : Char} : expect? c s = some rest ↔ s = c :: rest := by
  cases s with
  | nil => simp [expect?]
  | cons d tail =>
    unfold expect?
    by_cases h : d = c
    · simp [h]
    · simp [h]

/-- The first six digits, with zeros in the places of those that are missing, are the microseconds of
the fraction that all the digits make. -/
theorem microsecondsOf_eq {digits : List Nat} (h : ∀ digit ∈ digits, digit < 10) :
    (microsecondsOf digits).val = digitsValue digits * 10 ^ 6 / 10 ^ digits.length := by
  let filled : List Nat := digits ++ [0, 0, 0, 0, 0, 0]
  have hten : ∀ digit ∈ filled, digit < 10 := by
    intro digit hdigit
    rcases List.mem_append.mp hdigit with hin | hzero
    · exact h digit hin
    · simp at hzero
      omega
  have hlength : filled.length = digits.length + 6 := List.length_append
  have hfilled : digitsValue filled = digitsValue digits * 10 ^ 6 := by
    have hzeros : digitsValue [0, 0, 0, 0, 0, 0] = 0 := rfl
    rw [Text.digitsValue_append_list, hzeros, Nat.add_zero,
      show ([0, 0, 0, 0, 0, 0] : List Nat).length = 6 from rfl]
  have hkept : digitsValue (filled.take 6) < 10 ^ 6 := by
    have hlt : digitsValue (filled.take 6) < 10 ^ (filled.take 6).length :=
      Text.digitsValue_lt fun digit hdigit => hten digit (List.mem_of_mem_take hdigit)
    rwa [List.length_take, Nat.min_eq_left (by omega)] at hlt
  have hcut : digitsValue (filled.drop 6) < 10 ^ digits.length := by
    have hlt : digitsValue (filled.drop 6) < 10 ^ (filled.drop 6).length :=
      Text.digitsValue_lt fun digit hdigit => hten digit (List.mem_of_mem_drop hdigit)
    rwa [List.length_drop, hlength, Nat.add_sub_cancel] at hlt
  have hsplit : digitsValue digits * 10 ^ 6 =
      digitsValue (filled.take 6) * 10 ^ digits.length + digitsValue (filled.drop 6) := by
    rw [← hfilled]
    conv_lhs => rw [← List.take_append_drop 6 filled]
    rw [Text.digitsValue_append_list, List.length_drop, hlength, Nat.add_sub_cancel]
  rw [hsplit, Nat.mul_comm, Nat.mul_add_div (Nat.pow_pos (by decide)), Nat.div_eq_of_lt hcut]
  exact Nat.mod_eq_of_lt hkept

theorem takeFraction?_eq_some {digits : List Nat} (h : takeFraction? s = some (digits, rest)) :
    ∃ head, s = head ++ rest ∧ Fraction decimalDigit? head (microsecondsOf digits) := by
  unfold takeFraction? at h
  split at h
  next tail =>
    let isDigit : Char → Bool := fun c => (decimalDigit? c).isSome
    have htail := tail.takeWhile_append_dropWhile (p := isDigit)
    dsimp only at h
    split at h
    next => cases h
    next hne =>
      obtain ⟨values, hvalues, heq⟩ := Option.map_eq_some_iff.mp h
      obtain ⟨rfl, rfl⟩ := Prod.mk.inj heq
      have hspells := Text.decimalDigits?_eq_some_iff.mp hvalues
      refine ⟨'.' :: tail.takeWhile isDigit, ?_, ?_⟩
      · have hdrop : tail.drop (tail.takeWhile isDigit).length = tail.dropWhile isDigit := by
          conv_lhs =>
            arg 2
            rw [← htail]
          exact List.drop_left' rfl
        show '.' :: tail = '.' :: (tail.takeWhile isDigit ++ tail.drop _)
        rw [hdrop, htail]
      · rw [microsecondsOf_eq hspells.lt_ten]
        apply Fraction.present hspells
        intro hnil
        have hlength := hspells.length_eq
        rw [hnil] at hlength
        simp [List.length_eq_zero_iff.mp hlength] at hne
  next =>
    obtain ⟨rfl, rfl⟩ := Prod.mk.inj (Option.some.inj h)
    exact ⟨[], rfl, .absent⟩

theorem takeFraction?_append {head : List Char} {microsecond : Nat}
    (h : Fraction decimalDigit? head microsecond) (hrest : EndsFraction rest) :
    ∃ digits, takeFraction? (head ++ rest) = some (digits, rest) ∧
      (microsecondsOf digits).val = microsecond := by
  cases h with
  | absent => exact takeFraction?_fractionText (show 0 < 1000000 by decide) hrest
  | @present s digits hspells hne =>
    refine ⟨digits, ?_, microsecondsOf_eq hspells.lt_ten⟩
    have hhead : (s ++ rest).takeWhile (fun c => (decimalDigit? c).isSome) = s := by
      rw [List.takeWhile_append_of_pos hspells.isSome]
      cases rest with
      | nil => simp
      | cons c rest => simp [hrest.1]
    have hs : s.isEmpty = false := by
      rw [List.isEmpty_eq_false_iff]
      intro hnil
      apply hne
      rw [← List.length_eq_zero_iff, ← hspells.length_eq, hnil]
      rfl
    simp [takeFraction?, hhead, hs, Text.decimalDigits?_eq_some_iff.mpr hspells]

/-! ## Offsets -/

theorem numeral_two {n : Nat} {s : List Char} (h : Numeral decimalDigit? 2 n s) :
    ∃ a b, s = [a, b] ∧ ∃ digits, decimalDigits? [a, b] = some digits ∧ digitsValue digits = n := by
  obtain ⟨digits, hspells, hlength, hvalue⟩ := h
  obtain ⟨a, b, rfl⟩ := List.length_eq_two.mp (hspells.length_eq.trans hlength)
  exact ⟨a, b, rfl, digits, Text.decimalDigits?_eq_some_iff.mpr hspells, hvalue⟩

theorem readOffset?_eq_some_iff {negative : Bool} {hours minutes : Nat} :
    readOffset? s = some (negative, hours, minutes) ↔
      ∃ hour minute, s = (if negative then '-' else '+') :: (hour ++ ':' :: minute) ∧
        Numeral decimalDigit? 2 hours hour ∧ Numeral decimalDigit? 2 minutes minute := by
  constructor
  · intro h
    unfold readOffset? at h
    split at h
    next sign h₁ h₂ m₁ m₂ =>
      simp only [Option.bind_eq_bind, Option.bind_eq_some_iff] at h
      obtain ⟨hour, hhour, minute, hminute, h⟩ := h
      split at h
      next hsign =>
        simp only [Option.some.injEq, Prod.mk.injEq] at h
        obtain ⟨rfl, rfl, rfl⟩ := h
        have hhour := Text.decimalDigits?_eq_some_iff.mp hhour
        have hminute := Text.decimalDigits?_eq_some_iff.mp hminute
        refine ⟨[h₁, h₂], [m₁, m₂], ?_, ⟨hour, hhour, hhour.length_eq.symm, rfl⟩,
          ⟨minute, hminute, hminute.length_eq.symm, rfl⟩⟩
        rcases hsign with rfl | rfl <;> rfl
      next => cases h
    next => cases h
  · rintro ⟨_, _, rfl, hhour, hminute⟩
    obtain ⟨h₁, h₂, rfl, hour, hhours, rfl⟩ := numeral_two hhour
    obtain ⟨m₁, m₂, rfl, minute, hminutes, rfl⟩ := numeral_two hminute
    cases negative <;> simp [readOffset?, hhours, hminutes]

theorem ofMinutes?_eq_some_iff {negative : Bool} {hours minutes : Nat} {offset : Offset} :
    Offset.ofMinutes? negative hours minutes = some offset ↔
      offset.microseconds = (if negative then -1 else 1) * ((hours * 60 + minutes : Nat) * 60000000) := by
  have hlength : ∀ length : Int, Offset.of? length = some offset ↔ offset.microseconds = length := by
    intro length
    constructor
    · exact Offset.microseconds_of?
    · rintro rfl
      rw [Offset.of?, dif_pos offset.range]
  unfold Offset.ofMinutes?
  rw [hlength]
  cases negative <;> simp

/-- Hours and minutes after a sign are read as the offset of their length. -/
theorem offsetOf_of_hoursMinutes (negative : Bool) {clock : List Char} {minutes : Nat}
    {offset : Offset} (h : HoursMinutes decimalDigit? clock minutes)
    (hoffset : offset.microseconds = (if negative then -1 else 1) * (minutes * 60000000))
    (hs : s = (if negative then '-' else '+') :: clock) :
    (readOffset? s).isSome ∧ offsetOf s = .ok offset := by
  cases h with
  | @of hours minutes _ _ hhour hminute hhours hminutes =>
    have hread := readOffset?_eq_some_iff.mpr ⟨_, _, hs, hhour, hminute⟩
    have hrange : ¬ (hours > 23 ∨ minutes > 59) := by omega
    rw [offsetOf, hread]
    simp only [Option.isSome_some, if_neg hrange, ofMinutes?_eq_some_iff.mpr hoffset, true_and]

/-- The text of an offset is one of hours and minutes in a direction, or `Z`. -/
theorem zone_iff {offset : Offset} :
    Zone decimalDigit? s offset ↔
      (s = ['Z'] ∨ (readOffset? s).isSome) ∧ offsetOf s = .ok offset := by
  constructor
  · intro h
    cases h with
    | utc => exact ⟨.inl rfl, rfl⟩
    | ahead h hoffset =>
      obtain ⟨hform, hvalue⟩ := offsetOf_of_hoursMinutes false h (by simpa using hoffset) rfl
      exact ⟨.inr hform, hvalue⟩
    | behind h hoffset =>
      obtain ⟨hform, hvalue⟩ := offsetOf_of_hoursMinutes true h (by simpa using hoffset) rfl
      exact ⟨.inr hform, hvalue⟩
  · rintro ⟨hform, hvalue⟩
    unfold offsetOf at hvalue
    split at hvalue
    next hread =>
      obtain rfl := Except.ok.inj hvalue
      rw [hread] at hform
      obtain rfl := hform.resolve_right Bool.false_ne_true
      exact .utc
    next negative hours minutes hread =>
      obtain ⟨hour, minute, rfl, hhour, hminute⟩ := readOffset?_eq_some_iff.mp hread
      split at hvalue
      next => cases hvalue
      next hrange =>
        split at hvalue
        next found hfound =>
          obtain rfl := Except.ok.inj hvalue
          have hoffset := ofMinutes?_eq_some_iff.mp hfound
          have hclock : HoursMinutes decimalDigit? (hour ++ ':' :: minute) (hours * 60 + minutes) :=
            .of hhour hminute (by omega) (by omega)
          cases negative with
          | false => exact .ahead hclock (by simpa using hoffset)
          | true => exact .behind hclock (by simpa using hoffset)
        next => cases hvalue

theorem Zone.endsFraction {offset : Offset} (h : Zone decimalDigit? s offset) : EndsFraction s := by
  cases h with
  | utc | ahead | behind => exact ⟨by decide, by decide⟩

/-! ## Timestamps -/

theorem date_of_eq_ok {year month day : Nat} {date : Date} (h : Date.of year month day = .ok date) :
    year = date.year ∧ month = date.month ∧ day = date.day := by
  unfold Date.of at h
  split at h
  next =>
    split at h
    next =>
      split at h
      next =>
        obtain rfl := Except.ok.inj h
        exact ⟨rfl, rfl, rfl⟩
      next => cases h
    next => cases h
  next => cases h

theorem timeOfDay_of_eq_ok {hour minute second : Nat} {microsecond : Fin 1000000} {time : TimeOfDay}
    (h : TimeOfDay.of hour minute second microsecond = .ok time) :
    hour = time.hour ∧ minute = time.minute ∧ second = time.second ∧
      microsecond.val = time.microsecond := by
  unfold TimeOfDay.of at h
  split at h
  next =>
    split at h
    next =>
      split at h
      next =>
        obtain rfl := Except.ok.inj h
        exact ⟨rfl, rfl, rfl, rfl⟩
      next => cases h
    next => cases h
  next => cases h

theorem parts?_eq_some {p : Parts} (hparts : parts? s = some p) :
    ∃ year month day hour minute second fraction,
      s = year ++ '-' :: (month ++ '-' :: (day ++ 'T' :: (hour ++ ':' :: (minute ++ ':' ::
        (second ++ (fraction ++ p.offset)))))) ∧
      Numeral decimalDigit? 4 p.year year ∧ Numeral decimalDigit? 2 p.month month ∧
      Numeral decimalDigit? 2 p.day day ∧ Numeral decimalDigit? 2 p.hour hour ∧
      Numeral decimalDigit? 2 p.minute minute ∧ Numeral decimalDigit? 2 p.second second ∧
      Fraction decimalDigit? fraction (microsecondsOf p.fraction) ∧
      (p.offset = ['Z'] ∨ (readOffset? p.offset).isSome) := by
  obtain ⟨⟨_, _⟩, hy, h⟩ := Option.bind_eq_some_iff.mp hparts
  obtain ⟨_, hy', h⟩ := Option.bind_eq_some_iff.mp h
  obtain ⟨⟨_, _⟩, hmo, h⟩ := Option.bind_eq_some_iff.mp h
  obtain ⟨_, hmo', h⟩ := Option.bind_eq_some_iff.mp h
  obtain ⟨⟨_, _⟩, hd, h⟩ := Option.bind_eq_some_iff.mp h
  obtain ⟨_, hd', h⟩ := Option.bind_eq_some_iff.mp h
  obtain ⟨⟨_, _⟩, hh, h⟩ := Option.bind_eq_some_iff.mp h
  obtain ⟨_, hh', h⟩ := Option.bind_eq_some_iff.mp h
  obtain ⟨⟨_, _⟩, hmi, h⟩ := Option.bind_eq_some_iff.mp h
  obtain ⟨_, hmi', h⟩ := Option.bind_eq_some_iff.mp h
  obtain ⟨⟨_, _⟩, hs, h⟩ := Option.bind_eq_some_iff.mp h
  obtain ⟨⟨_, _⟩, htake, hlast⟩ := Option.bind_eq_some_iff.mp h
  obtain ⟨year, rfl, hyear⟩ := takeNumber?_eq_some_iff.mp hy
  obtain rfl := expect?_eq_some_iff.mp hy'
  obtain ⟨month, rfl, hmonth⟩ := takeNumber?_eq_some_iff.mp hmo
  obtain rfl := expect?_eq_some_iff.mp hmo'
  obtain ⟨day, rfl, hday⟩ := takeNumber?_eq_some_iff.mp hd
  obtain rfl := expect?_eq_some_iff.mp hd'
  obtain ⟨hour, rfl, hhour⟩ := takeNumber?_eq_some_iff.mp hh
  obtain rfl := expect?_eq_some_iff.mp hh'
  obtain ⟨minute, rfl, hminute⟩ := takeNumber?_eq_some_iff.mp hmi
  obtain rfl := expect?_eq_some_iff.mp hmi'
  obtain ⟨second, rfl, hsecond⟩ := takeNumber?_eq_some_iff.mp hs
  obtain ⟨fraction, rfl, hfraction⟩ := takeFraction?_eq_some htake
  dsimp only at hlast
  split at hlast
  next hoffset =>
    obtain rfl := Option.some.inj hlast
    exact ⟨year, month, day, hour, minute, second, fraction, rfl, hyear, hmonth, hday, hhour, hminute,
      hsecond, hfraction, hoffset⟩
  next => cases hlast

/-- The reader accepts the timestamps with digits of any script, and reads what they denote. -/
theorem parse_eq_ok_iff {d : DateTime} : parse s = .ok d ↔ Timestamp decimalDigit? s d := by
  constructor
  · intro h
    unfold parse at h
    split at h
    next => cases h
    next p hparts =>
      obtain ⟨offset, hoffset, h⟩ := Outcome.bind_eq_ok h
      obtain ⟨date, hdate, h⟩ := Outcome.bind_eq_ok h
      obtain ⟨time, htime, h⟩ := Outcome.bind_eq_ok h
      obtain rfl := Except.ok.inj h
      obtain ⟨year, month, day, hour, minute, second, fraction, rfl, hyear, hmonth, hday, hhour,
        hminute, hsecond, hfraction, hform⟩ := parts?_eq_some hparts
      obtain ⟨hy, hm, hd⟩ := date_of_eq_ok (Outcome.mapError_eq_ok hdate)
      obtain ⟨hh, hmin, hs, hmicro⟩ := timeOfDay_of_eq_ok (Outcome.mapError_eq_ok htime)
      rw [hy] at hyear
      rw [hm] at hmonth
      rw [hd] at hday
      rw [hh] at hhour
      rw [hmin] at hminute
      rw [hs] at hsecond
      rw [hmicro] at hfraction
      exact .of hyear hmonth hday hhour hminute hsecond hfraction (zone_iff.mpr ⟨hform, hoffset⟩)
  · rintro ⟨hyear, hmonth, hday, hhour, hminute, hsecond, hfraction, hzone⟩
    obtain ⟨digits, htake, hmicro⟩ := takeFraction?_append hfraction hzone.endsFraction
    obtain ⟨hform, hoffset⟩ := zone_iff.mp hzone
    have hparts := parts?_of (takeNumber?_append hyear) (takeNumber?_append hmonth)
      (takeNumber?_append hday) (takeNumber?_append hhour) (takeNumber?_append hminute)
      (takeNumber?_append hsecond) htake hform
    simp only [parse, hparts, hoffset, date_of, timeOfDay_of _ hmicro]
    rfl

/-! ## Timestamps in ASCII -/

section Digits

variable {digit? other? : Char → Option Nat}

/-- Each digit of a text counts as the same digit in another way. -/
def KeepsDigits (digit? other? : Char → Option Nat) (s : List Char) : Prop :=
  ∀ c ∈ s, ∀ value, digit? c = some value → other? c = some value

theorem keepsDigits_append {t : List Char} :
    KeepsDigits digit? other? (s ++ t) ↔ KeepsDigits digit? other? s ∧ KeepsDigits digit? other? t :=
  List.forall_mem_append

theorem keepsDigits_cons {c : Char} (h : KeepsDigits digit? other? (c :: s)) :
    KeepsDigits digit? other? s :=
  (List.forall_mem_cons.mp h).2

theorem Numeral.mono (h : Numeral digit? width n s) (hkeeps : KeepsDigits digit? other? s) :
    Numeral other? width n s := by
  obtain ⟨digits, hspells, hlength, hvalue⟩ := h
  exact ⟨digits, hspells.mono hkeeps, hlength, hvalue⟩

theorem Fraction.mono (h : Fraction digit? s n) (hkeeps : KeepsDigits digit? other? s) :
    Fraction other? s n := by
  cases h with
  | absent => exact .absent
  | present hspells hne => exact .present (hspells.mono (keepsDigits_cons hkeeps)) hne

theorem HoursMinutes.mono (h : HoursMinutes digit? s n) (hkeeps : KeepsDigits digit? other? s) :
    HoursMinutes other? s n := by
  obtain ⟨hhour, hminute, hhours, hminutes⟩ := h
  obtain ⟨hkeepsHour, hkeepsMinute⟩ := keepsDigits_append.mp hkeeps
  exact .of (hhour.mono hkeepsHour) (hminute.mono (keepsDigits_cons hkeepsMinute)) hhours hminutes

theorem Zone.mono {offset : Offset} (h : Zone digit? s offset)
    (hkeeps : KeepsDigits digit? other? s) : Zone other? s offset := by
  cases h with
  | utc => exact .utc
  | ahead h hoffset => exact .ahead (h.mono (keepsDigits_cons hkeeps)) hoffset
  | behind h hoffset => exact .behind (h.mono (keepsDigits_cons hkeeps)) hoffset

theorem Timestamp.mono {d : DateTime} (h : Timestamp digit? s d)
    (hkeeps : KeepsDigits digit? other? s) : Timestamp other? s d := by
  obtain ⟨hyear, hmonth, hday, hhour, hminute, hsecond, hfraction, hzone⟩ := h
  obtain ⟨hk₁, hkeeps⟩ := keepsDigits_append.mp hkeeps
  obtain ⟨hk₂, hkeeps⟩ := keepsDigits_append.mp (keepsDigits_cons hkeeps)
  obtain ⟨hk₃, hkeeps⟩ := keepsDigits_append.mp (keepsDigits_cons hkeeps)
  obtain ⟨hk₄, hkeeps⟩ := keepsDigits_append.mp (keepsDigits_cons hkeeps)
  obtain ⟨hk₅, hkeeps⟩ := keepsDigits_append.mp (keepsDigits_cons hkeeps)
  obtain ⟨hk₆, hkeeps⟩ := keepsDigits_append.mp (keepsDigits_cons hkeeps)
  obtain ⟨hk₇, hk₈⟩ := keepsDigits_append.mp hkeeps
  exact .of (hyear.mono hk₁) (hmonth.mono hk₂) (hday.mono hk₃) (hhour.mono hk₄)
    (hminute.mono hk₅) (hsecond.mono hk₆) (hfraction.mono hk₇) (hzone.mono hk₈)

end Digits

def IsAscii (s : List Char) : Prop :=
  ∀ c ∈ s, c.toNat < 128

theorem isAscii_append {t : List Char} : IsAscii (s ++ t) ↔ IsAscii s ∧ IsAscii t :=
  List.forall_mem_append

theorem isAscii_cons {c : Char} : IsAscii (c :: s) ↔ c.toNat < 128 ∧ IsAscii s :=
  List.forall_mem_cons

theorem spells_isAscii {digits : List Nat} (h : Spells asciiDigit? s digits) : IsAscii s := by
  intro c hc
  obtain ⟨value, hvalue⟩ := Option.isSome_iff_exists.mp (h.isSome c hc)
  exact (Text.asciiDigit?_eq_some_iff.mp hvalue).1

theorem Numeral.isAscii (h : Numeral asciiDigit? width n s) : IsAscii s := by
  obtain ⟨_, hspells, -, -⟩ := h
  exact spells_isAscii hspells

theorem HoursMinutes.isAscii (h : HoursMinutes asciiDigit? s n) : IsAscii s := by
  obtain ⟨hhour, hminute, -, -⟩ := h
  rw [isAscii_append, isAscii_cons]
  exact ⟨hhour.isAscii, by decide, hminute.isAscii⟩

theorem Fraction.isAscii (h : Fraction asciiDigit? s n) : IsAscii s := by
  cases h with
  | absent => exact List.forall_mem_nil _
  | present hspells _ => exact isAscii_cons.mpr ⟨by decide, spells_isAscii hspells⟩

theorem Zone.isAscii {offset : Offset} (h : Zone asciiDigit? s offset) : IsAscii s := by
  cases h with
  | utc => exact isAscii_cons.mpr ⟨by decide, List.forall_mem_nil _⟩
  | ahead h _ | behind h _ => exact isAscii_cons.mpr ⟨by decide, h.isAscii⟩

theorem Timestamp.isAscii {d : DateTime} (h : Timestamp asciiDigit? s d) : IsAscii s := by
  obtain ⟨hyear, hmonth, hday, hhour, hminute, hsecond, hfraction, hzone⟩ := h
  simp only [isAscii_append, isAscii_cons]
  exact ⟨hyear.isAscii, by decide, hmonth.isAscii, by decide, hday.isAscii, by decide, hhour.isAscii,
    by decide, hminute.isAscii, by decide, hsecond.isAscii, hfraction.isAscii, hzone.isAscii⟩

theorem timestamp_ascii_iff {d : DateTime} :
    Timestamp asciiDigit? s d ↔ IsAscii s ∧ Timestamp decimalDigit? s d := by
  constructor
  · intro h
    exact ⟨h.isAscii, h.mono fun _ _ _ hvalue => (Text.asciiDigit?_eq_some_iff.mp hvalue).2⟩
  · rintro ⟨hascii, h⟩
    apply h.mono
    intro c hc value hvalue
    exact Text.asciiDigit?_eq_some_iff.mpr ⟨hascii c hc, hvalue⟩

end Rfc3339
end Time

namespace Coercion

open Time.Rfc3339 (Timestamp IsAscii)

theorem parseDateTime_eq_ok_iff {text : String} {d : DateTime} :
    parseDateTime text = .ok d ↔ Timestamp Text.decimalDigit? text.toList d := by
  rw [← Time.Rfc3339.parse_eq_ok_iff, parseDateTime]
  cases Time.Rfc3339.parse text.toList <;> simp [Except.mapError]

theorem coerce_datetime_eq_ok_iff {text : String} {value : Value} :
    datetime.coerce (.str text) = .ok value ↔
      ∃ d, value = .datetime d ∧ parseDateTime text = .ok d := by
  show ((parseDateTime text).map Value.datetime).mapError _ = .ok value ↔ _
  cases parseDateTime text <;> simp [Except.map, Except.mapError, eq_comm]

/-- The texts that are taken for points in time are the timestamps with digits of any script, each for
the point that it denotes, and all others are refused.  Those with ASCII digits are what is taken of
the ASCII texts. -/
theorem datetime_taken_iff (text : String) :
    (∀ value, datetime.coerce (.str text) = .ok value ↔
      ∃ d, value = .datetime d ∧ Timestamp Text.decimalDigit? text.toList d) ∧
    (datetime.coerce (.str text) = .error (.invalidLiteral .datetime text true) ↔
      ¬ ∃ d, Timestamp Text.decimalDigit? text.toList d) ∧
    (datetime.accepts (.str text) = true ↔
      ∃ d, Timestamp Text.decimalDigit? text.toList d) ∧
    ∀ d, Timestamp Text.asciiDigit? text.toList d ↔
      IsAscii text.toList ∧ datetime.coerce (.str text) = .ok (.datetime d) := by
  simp only [← parseDateTime_eq_ok_iff, Time.Rfc3339.timestamp_ascii_iff]
  refine ⟨fun value => coerce_datetime_eq_ok_iff, ?_, ?_, fun d => and_congr_right fun _ => ?_⟩
  · show ((parseDateTime text).map Value.datetime).mapError _ = _ ↔ _
    cases parseDateTime text with
    | ok d => exact iff_of_false nofun (not_not.mpr ⟨d, rfl⟩)
    | error e => exact iff_of_true rfl (by rintro ⟨d, hd⟩; cases hd)
  · show ((parseDateTime text).map Value.datetime).isOk = true ↔ _
    cases parseDateTime text with
    | ok d => exact iff_of_true rfl ⟨d, rfl⟩
    | error e => exact iff_of_false nofun (by rintro ⟨d, hd⟩; cases hd)
  · rw [coerce_datetime_eq_ok_iff]
    constructor
    · exact fun h => ⟨d, rfl, h⟩
    · rintro ⟨_, heq, h⟩
      cases heq
      exact h

/-- A timestamp with fullwidth digits in its year is taken, and it is none with ASCII digits. -/
theorem wide_year_taken :
    datetime.coerce (.str "\uff12\uff10\uff12\uff14-03-07T11:38:47Z") =
        .ok (.datetime ⟨⟨2024, 3, 7, by decide, by decide, by decide⟩,
          ⟨11, 38, 47, 0, by decide, by decide, by decide, by decide⟩, some .utc⟩) ∧
      ¬ ∃ d, Timestamp Text.asciiDigit? "\uff12\uff10\uff12\uff14-03-07T11:38:47Z".toList d := by
  refine ⟨coerce_datetime_eq_ok_iff.mpr ⟨_, rfl, by decide +kernel⟩, ?_⟩
  rintro ⟨d, h⟩
  exact absurd (h.isAscii '\uff12' (by decide)) (by decide)

end Coercion
end Schematic
