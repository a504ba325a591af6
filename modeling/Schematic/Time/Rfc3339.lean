import Schematic.Time.Iso
import Schematic.Text.Digit

/-!
RFC 3339 timestamps: an uppercase T between date and time, and a mandatory offset in hours
and minutes.  A fraction may have any number of digits; it is cut to microseconds.  Digits
of every script are taken for their values.
-/

namespace Schematic
namespace Time
namespace Rfc3339

inductive Error where
  | form
  | offset (text : String)
  | field (error : FieldError)
  deriving DecidableEq

/-- The parts of a timestamp before any range is checked. -/
structure Parts where
  year : Nat
  month : Nat
  day : Nat
  hour : Nat
  minute : Nat
  second : Nat
  fraction : List Nat
  /-- `Z`, or a sign with hours and minutes. -/
  offset : List Char

/-- A number of exactly `width` decimal digits at the start of a text. -/
def takeNumber? (width : Nat) (s : List Char) : Option (Nat × List Char) :=
  let head := s.take width
  if head.length = width then
    (Text.decimalDigits? head).map fun digits => (Text.digitsValue digits, s.drop width)
  else none

/-- The fraction after a point, at least one digit, or none without a point. -/
def takeFraction? : List Char → Option (List Nat × List Char)
  | '.' :: rest =>
    let head := rest.takeWhile fun c => (Text.decimalDigit? c).isSome
    if head.isEmpty then none
    else (Text.decimalDigits? head).map fun digits => (digits, rest.drop head.length)
  | s => some ([], s)

def readOffset? : List Char → Option (Bool × Nat × Nat)
  | [sign, h₁, h₂, ':', m₁, m₂] => do
    let hours ← Text.decimalDigits? [h₁, h₂]
    let minutes ← Text.decimalDigits? [m₁, m₂]
    if sign = '+' ∨ sign = '-' then
      some (sign == '-', Text.digitsValue hours, Text.digitsValue minutes)
    else none
  | _ => none

def parts? (s : List Char) : Option Parts := do
  let (year, s) ← takeNumber? 4 s
  let (month, s) ← takeNumber? 2 (← expect? '-' s)
  let (day, s) ← takeNumber? 2 (← expect? '-' s)
  let (hour, s) ← takeNumber? 2 (← expect? 'T' s)
  let (minute, s) ← takeNumber? 2 (← expect? ':' s)
  let (second, s) ← takeNumber? 2 (← expect? ':' s)
  let (fraction, offset) ← takeFraction? s
  if offset = ['Z'] ∨ (readOffset? offset).isSome then
    some ⟨year, month, day, hour, minute, second, fraction, offset⟩
  else none

/-- The offset of a timestamp: hours below 24 and minutes below 60. -/
def offsetOf (s : List Char) : Except Error Offset :=
  match readOffset? s with
  | none => .ok Offset.utc
  | some (negative, hours, minutes) =>
    if hours > 23 ∨ minutes > 59 then .error (.offset (String.ofList s))
    else
      match Offset.ofMinutes? negative hours minutes with
      | some offset => .ok offset
      | none => .error (.offset (String.ofList s))

/-- The point that a timestamp denotes. -/
def parse (s : List Char) : Except Error DateTime :=
  match parts? s with
  | none => .error .form
  | some p => do
    -- A wrong offset is reported before a wrong field, and of the fields the first.
    let offset ← offsetOf p.offset
    let date ← (Date.of p.year p.month p.day).mapError .field
    let time ← (TimeOfDay.of p.hour p.minute p.second (microsecondsOf p.fraction)).mapError .field
    .ok ⟨date, time, some offset⟩

/-- The ISO text of a point, a naive one taken at UTC, with the offset zero written `Z`. -/
def format (d : DateTime) : List Char :=
  let offset := d.offset.getD Offset.utc
  DateTime.iso { d with offset := none } ++
    (if offset = Offset.utc then ['Z'] else offset.iso)

end Rfc3339
end Time
end Schematic
