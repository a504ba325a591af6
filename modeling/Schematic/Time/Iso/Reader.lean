import Schematic.Text.Digit
import Schematic.Text.Utf8
import Schematic.Time.Iso
import Schematic.Time.Week

/-!
Reading ISO 8601 texts of points in time.  A date is written in the extended or the basic
format, by month or by week, and may stand alone.  After one character, whichever it is, a
clock reading follows, cut after any of its parts, and then an offset.

The reader is lenient where an offset follows: what is left of the clock reading before it is
passed over, as far as it reaches.  Places in a text are counted in bytes.
-/

namespace Schematic
namespace Time
namespace Iso

abbrev Bytes := List UInt8

inductive Error where
  | form (text : String)
  | offset (microseconds : Int)
  | field (error : FieldError)
  deriving DecidableEq

def byte (c : Char) : UInt8 :=
  c.toNat.toUInt8

/-- The byte at a place; past the end it is zero. -/
def byteAt (s : Bytes) (index : Nat) : UInt8 :=
  ((s.drop index).head?).getD 0

def digit? (b : UInt8) : Option Nat :=
  if 0x30 ≤ b ∧ b ≤ 0x39 then some (b.toNat - 48) else none

def isDigit (b : UInt8) : Bool :=
  (digit? b).isSome

/-- A number of exactly `width` digits at the start of a text. -/
def takeNumber? (width : Nat) (s : Bytes) : Option (Nat × Bytes) := do
  let digits ← (s.take width).mapM digit?
  if digits.length = width then some (Text.digitsValue digits, s.drop width) else none

/-- The text after a hyphen where one is due. -/
def skipHyphen? (due : Bool) (s : Bytes) : Option Bytes :=
  if due then if byteAt s 0 = byte '-' then some (s.drop 1) else none
  else some s

/-! ### Dates -/

/-- Where the character between date and time is, or would be.  Digits right after a week are
counted: the clock reading has an even number of them. -/
def separatorIndex (s : Bytes) : Nat :=
  if s.length = 7 then 7
  else if byteAt s 4 = byte '-' then
    if byteAt s 5 = byte 'W' then
      if s.length > 8 ∧ byteAt s 8 = byte '-' then
        if s.length > 10 ∧ isDigit (byteAt s 10) then 8 else 10
      else 8
    else 10
  else if byteAt s 4 = byte 'W' then
    let index := 7 + ((s.drop 7).takeWhile isDigit).length
    if index < 9 then index else if index % 2 = 0 then 7 else 8
  else 8

/-- A date of `length` bytes by its week: the day of the week may be left out. -/
def weekDate? (year : Nat) (hyphens : Bool) (length : Nat) (s : Bytes) :
    Option (Nat × Nat × Nat) := do
  let (week, rest) ← takeNumber? 2 s
  if (if hyphens then 8 else 7) < length then
    let (day, _) ← takeNumber? 1 (← skipHyphen? hyphens rest)
    ofWeek? year week day
  else ofWeek? year week 1

def date? (length : Nat) (s : Bytes) : Option (Nat × Nat × Nat) := do
  let (year, s) ← takeNumber? 4 s
  let hyphens := byteAt s 0 == byte '-'
  let s := if hyphens then s.drop 1 else s
  if byteAt s 0 = byte 'W' then weekDate? year hyphens length (s.drop 1)
  else
    let (month, s) ← takeNumber? 2 s
    let (day, _) ← takeNumber? 2 (← skipHyphen? hyphens s)
    some (year, month, day)

/-! ### Clock readings -/

structure Clock where
  hour : Nat
  minute : Nat
  second : Nat
  microsecond : Fin 1000000

/-- How the fields of a clock reading end. -/
inductive ClockEnd where
  /-- At the end of the reading, and whether the text goes on. -/
  | whole (more : Bool)
  | fraction (s : Bytes)

/-- At most `count` fields of a clock reading that ends `after` bytes before the text does.
Whether colons stand between them is settled by the first one. -/
def fields? (after : Nat) : Nat → Option Bool → Bytes → Option (List Nat × ClockEnd)
  | 0, _, s => some ([], .fraction s)
  | count + 1, colons, s => do
    let (value, s) ← takeNumber? 2 s
    let next := byteAt s 0
    let colons := colons.getD (next == byte ':')
    if s.length ≤ after + 1 then some ([value], .whole (next != 0))
    else if colons && next == byte ':' then
      let (values, last) ← fields? after count (some colons) (s.drop 1)
      some (value :: values, last)
    else if next = byte '.' ∨ next = byte ',' then some ([value], .fraction (s.drop 1))
    else if colons then none
    else
      let (values, last) ← fields? after count (some colons) s
      some (value :: values, last)

/-- A fraction that ends `after` bytes before the text does: its microseconds, and whether
something that is no digit follows.  Only the first six bytes have to be digits. -/
def fraction? (after : Nat) (s : Bytes) : Option (Fin 1000000 × Bool) := do
  let width := min 6 (s.length - after)
  let digits ← (s.take width).mapM digit?
  some (microsecondsOf digits, byteAt ((s.drop width).dropWhile isDigit) 0 != 0)

/-- A clock reading that ends `after` bytes before the text does, and whether something
follows it. -/
def clock? (after : Nat) (s : Bytes) : Option (Clock × Bool) := do
  let (values, last) ← fields? after 3 none s
  let field (index : Nat) : Nat := (values[index]?).getD 0
  let (microsecond, more) ← match last with
    | .whole more => some (microsecondsOf [], more)
    | .fraction s => fraction? after s
  some (⟨field 0, field 1, field 2, microsecond⟩, more)

/-! ### Offsets -/

def startsOffset (b : UInt8) : Bool :=
  b == byte '+' || b == byte '-' || b == byte 'Z'

/-- The microseconds of an offset.  One of less than a second counts as none.  A zero byte ends
it like the end of the text. -/
def offsetMicroseconds? (s : Bytes) : Option Int :=
  if byteAt s 0 = byte 'Z' then if byteAt s 1 = 0 then some 0 else none
  else do
    let (clock, more) ← clock? 0 (s.drop 1)
    let seconds := (clock.hour * 60 + clock.minute) * 60 + clock.second
    let length : Int := seconds * 1000000 + clock.microsecond.val
    if more then none
    else if seconds = 0 then some 0
    else some (if byteAt s 0 = byte '-' then -length else length)

def time? (s : Bytes) : Option (Clock × Option Int) :=
  let front := s.takeWhile fun b => !startsOffset b
  let back := s.dropWhile fun b => !startsOffset b
  if back.isEmpty then do
    let (clock, more) ← clock? 0 front
    if more then none else some (clock, none)
  else do
    let (clock, _) ← clock? back.length s
    let offset ← offsetMicroseconds? back
    some (clock, some offset)

/-- The bytes of the character at the front of a text. -/
def skipCharacter (s : Bytes) : Bytes :=
  let first := byteAt s 0
  if first < 0x80 then s.drop 1
  else if first ≥ 0xF0 then s.drop 4
  else if first ≥ 0xE0 then s.drop 3
  else s.drop 2

/-- The parts of a text before any range is checked. -/
def parts? (s : Bytes) : Option ((Nat × Nat × Nat) × Clock × Option Int) :=
  if s.length < 7 then none
  else do
    let index := separatorIndex s
    let date ← date? index s
    if s.length > index then
      let (clock, offset) ← time? (skipCharacter (s.drop index))
      some (date, clock, offset)
    else some (date, ⟨0, 0, 0, microsecondsOf []⟩, none)

def offsetOf : Option Int → Except Error (Option Offset)
  | none => .ok none
  | some microseconds =>
    match Offset.of? microseconds with
    | some offset => .ok (some offset)
    | none => .error (.offset microseconds)

/-- The point of a text. -/
def read (text : String) : Except Error DateTime :=
  match parts? (Text.Utf8.encode text) with
  | none => .error (.form text)
  | some ((year, month, day), clock, offset) => do
    -- A wrong offset is reported before a wrong field.
    let offset ← offsetOf offset
    let date ← (Date.of year month day).mapError .field
    let time ← (TimeOfDay.of clock.hour clock.minute clock.second clock.microsecond).mapError
      .field
    return ⟨date, time, offset⟩

end Iso
end Time

def DateTime.ofIso (text : String) : Except Time.Iso.Error DateTime :=
  Time.Iso.read text

end Schematic
