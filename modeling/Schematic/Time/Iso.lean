import Schematic.Time.DateTime
import Schematic.Text.Digit

/-!
ISO 8601 texts of points in time: extended format, microseconds and the seconds of an
offset only where they are not zero.
-/

namespace Schematic
namespace Time

open Text (digitChar)

def decimals : Nat → Nat → List Char
  | 0, _ => []
  | width + 1, n => decimals width (n / 10) ++ [digitChar (n % 10)]

/-- A fraction of a second, written only if it is not zero. -/
def fractionText (microsecond : Nat) : List Char :=
  if microsecond = 0 then [] else '.' :: decimals 6 microsecond

def Date.iso (d : Date) : List Char :=
  decimals 4 d.year ++ '-' :: decimals 2 d.month ++ '-' :: decimals 2 d.day

def TimeOfDay.iso (t : TimeOfDay) : List Char :=
  decimals 2 t.hour ++ ':' :: decimals 2 t.minute ++ ':' :: decimals 2 t.second ++
    fractionText t.microsecond

/-- The sign, hours and minutes of an offset, then its seconds if it has any. -/
def Offset.iso (o : Offset) : List Char :=
  let length := o.microseconds.natAbs
  let seconds := length / 1000000
  let sign := if o.microseconds < 0 then '-' else '+'
  sign :: decimals 2 (seconds / 3600) ++ ':' :: decimals 2 (seconds / 60 % 60) ++
    (if length % 60000000 = 0 then []
     else ':' :: decimals 2 (seconds % 60) ++ fractionText (length % 1000000))

end Time

namespace DateTime

open Time

def isoWith (separator : Char) (d : DateTime) : List Char :=
  d.date.iso ++ separator :: d.time.iso ++ (d.offset.map Offset.iso).getD []

def iso (d : DateTime) : List Char :=
  d.isoWith 'T'

end DateTime

namespace Time

def expect? (c : Char) : List Char → Option (List Char)
  | d :: rest => if d = c then some rest else none
  | [] => none

/-- The microseconds of a fraction, digits beyond the sixth dropped. -/
def microsecondsOf (digits : List Nat) : Fin 1000000 :=
  Fin.ofNat 1000000 (Text.digitsValue ((digits ++ [0, 0, 0, 0, 0, 0]).take 6))

end Time
end Schematic
