import Schematic.Time.Date

/-!
Dates by week.  The weeks of a year start on Mondays, and the first of them is the one that
holds the first Thursday, so that the first days of a year may belong to the year before.
-/

namespace Schematic
namespace Time

/-- The day of the week of a numbered day, counted from 0 for Monday. -/
def weekday (dayNumber : Nat) : Nat :=
  (dayNumber + 6) % 7

def firstDay (year : Nat) : Nat :=
  daysBeforeYear year + 1

/-- The number of the Monday of the first week of a year. -/
def firstMonday (year : Nat) : Nat :=
  let first := firstDay year
  if weekday first > 3 then first + 7 - weekday first else first - weekday first

/-- A year of 53 weeks starts on a Thursday, or is a leap year that starts on a Wednesday. -/
def hasLongWeeks (year : Nat) : Bool :=
  weekday (firstDay year) == 3 || (weekday (firstDay year) == 2 && isLeapYear year)

/-- The month and day of the `count`-th day of a year, from the month `month` on, in at most
`fuel` months. -/
def monthDay (year : Nat) : Nat → Nat → Nat → Nat × Nat
  | 0, month, count => (month, count)
  | fuel + 1, month, count =>
    if count ≤ daysInMonth year month then (month, count)
    else monthDay year fuel (month + 1) (count - daysInMonth year month)

/-- The year, month and day of a numbered day in a year or the years beside it. -/
def civilNear (year dayNumber : Nat) : Nat × Nat × Nat :=
  let year :=
    if dayNumber < firstDay year then year - 1
    else if dayNumber ≥ firstDay (year + 1) then year + 1
    else year
  (year, monthDay year 11 1 (dayNumber + 1 - firstDay year))

/-- The year, month and day of a day of a week, if the year has that week and the week that
day. -/
def ofWeek? (year week day : Nat) : Option (Nat × Nat × Nat) :=
  let weeks := if year ≠ 0 ∧ hasLongWeeks year then 53 else 52
  if week = 0 ∨ week > weeks ∨ day = 0 ∨ day > 7 then none
  -- The weeks of the year 0 are before the calendar, and their days in no month of it.
  else if year = 0 then some (1, 0, 0)
  else some (civilNear year (firstMonday year + 7 * (week - 1) + (day - 1)))

end Time
end Schematic
