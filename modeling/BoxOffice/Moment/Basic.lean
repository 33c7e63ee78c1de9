/-! Points in time: a calendar date and time of day to the microsecond, with the offset of its zone
from UTC, or without a zone. Years run from 1 to 9999. -/
namespace BoxOffice

/- The wall clock counts microseconds from the start of year 1, the offset microseconds east. Each moment has one
fixed offset, and moments are compared as instants; zones whose offset changes, within which two moments are
compared by their wall clocks, are not modelled. -/
structure Moment where
  wall : Int
  offset : Option Int
  deriving DecidableEq, Repr

namespace Moment

def microsPerSecond : Int := 1000000
def secondsPerDay : Int := 86400
def microsPerDay : Int := secondsPerDay * microsPerSecond

def calendarDays : Int := 3652059

def inCalendar (wall : Int) : Bool :=
  0 ≤ wall && wall < calendarDays * microsPerDay

def isNaive (m : Moment) : Bool :=
  m.offset.isNone

def instant (m : Moment) : Int :=
  m.wall - m.offset.getD 0

def plus? (m : Moment) (micros : Int) : Option Moment :=
  let wall := m.wall + micros
  if inCalendar wall then some { m with wall } else none

def utc? (m : Moment) : Option Moment :=
  if inCalendar m.instant then some ⟨m.instant, some 0⟩ else none

def order? (a b : Moment) : Option Ordering :=
  if a.isNaive = b.isNaive then some (compare a.instant b.instant) else none

def isLeap (year : Nat) : Bool :=
  year % 4 == 0 && (year % 100 != 0 || year % 400 == 0)

def monthLengths (year : Nat) : List Nat :=
  [31, if isLeap year then 29 else 28, 31, 30, 31, 30, 31, 31, 30, 31, 30, 31]

def daysBeforeYear (year : Nat) : Nat :=
  let past := year - 1
  past * 365 + past / 4 - past / 100 + past / 400

def dayOf (year month day : Nat) : Nat :=
  daysBeforeYear year + ((monthLengths year).take (month - 1)).foldl (· + ·) 0 + (day - 1)

def yearOfDay (day : Nat) : Nat × Nat :=
  let inEra := day % 146097
  let century := min 3 (inEra / 36524)
  let inCentury := inEra - century * 36524
  let inCycle := inCentury % 1461
  let yearInCycle := min 3 (inCycle / 365)
  (day / 146097 * 400 + century * 100 + inCentury / 1461 * 4 + yearInCycle + 1,
    inCycle - yearInCycle * 365)

def monthOfDay : List Nat → Nat → Nat × Nat
  | [], day => (0, day)
  | length :: rest, day =>
    if day < length then (0, day)
    else
      let (months, left) := monthOfDay rest (day - length)
      (months + 1, left)

def dateOfDay (day : Nat) : Nat × Nat × Nat :=
  let (year, dayOfYear) := yearOfDay day
  let (months, days) := monthOfDay (monthLengths year) dayOfYear
  (year, months + 1, days + 1)

end Moment
end BoxOffice
