import Schematic.Time.Date

/-!
Points in time: a date, a time of day and, unless the point is naive, the offset of the
clock from UTC.  Two points with offsets are the same point if they denote the same
instant, whatever their clocks show.
-/

namespace Schematic
namespace Time

def dayLength : Nat := 86400000000

/-- An offset from UTC, shorter than a day in either direction. -/
structure Offset where
  microseconds : Int
  range : microseconds.natAbs < dayLength
  deriving DecidableEq

namespace Offset

def utc : Offset := ⟨0, by decide⟩

def of? (microseconds : Int) : Option Offset :=
  if h : microseconds.natAbs < dayLength then some ⟨microseconds, h⟩ else none

def ofMinutes? (negative : Bool) (hours minutes : Nat) : Option Offset :=
  let length : Int := (hours * 60 + minutes : Nat) * 60000000
  of? (if negative then -length else length)

end Offset
end Time

/-- A point in time.  Of a time zone only the offset that it has at the point is kept, so a point with a
zone that gives it no offset is not told apart from a point without a zone. -/
structure DateTime where
  date : Time.Date
  time : Time.TimeOfDay
  /-- `none` for a naive point, which names a clock reading and no instant. -/
  offset : Option Time.Offset
  deriving DecidableEq

namespace DateTime

/-- The first instant of the year 1, in UTC. -/
def zero : DateTime where
  date := ⟨1, 1, 1, by decide, by decide, by decide⟩
  time := Time.TimeOfDay.midnight
  offset := some Time.Offset.utc

/-- Microseconds from the midnight before the year 1 to the clock reading. -/
def clock (d : DateTime) : Int :=
  (d.date.dayNumber * Time.dayLength + d.time.microseconds : Nat)

/-- The clock reading at UTC of a point with an offset. -/
def instant? (d : DateTime) : Option Int :=
  d.offset.map fun offset => d.clock - offset.microseconds

/-- Sameness of points: by instant with offsets, by clock reading without, and never
between the two kinds. -/
def same (a b : DateTime) : Bool :=
  match a.instant?, b.instant? with
  | some x, some y => x == y
  | none, none => a.clock == b.clock
  | _, _ => false

end DateTime
end Schematic
