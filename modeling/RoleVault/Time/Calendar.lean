/-!
Contract: dates and points in time.

Owns:
- the proleptic Gregorian calendar over all years: leap years, the lengths of months, and the two
  ways between a date and its number of days since 1970-01-01;
- the type `Instant`, within the years -262143 to 262142 and with room for leap seconds, the order of
  instants, their whole seconds, and moving one by a number of minutes.

Does not own: their text (`RoleVault.Time.Rfc3339`), nor the clock: operations take the present as
an argument.

Years are counted from March, so that the leap day ends a year, and grouped into eras of four
hundred years, each of 146097 days.
-/

namespace RoleVault.Time

/-- A calendar date; year zero is the year before year one. -/
structure Date where
  year : Int
  month : Nat
  day : Nat
deriving DecidableEq, Repr

namespace Date

def isLeap (year : Int) : Bool :=
  year % 4 == 0 && (year % 100 != 0 || year % 400 == 0)

/-- The days of a month of a year, none where there is no such month. -/
def daysInMonth (year : Int) (month : Nat) : Nat :=
  match month with
  | 1 | 3 | 5 | 7 | 8 | 10 | 12 => 31
  | 4 | 6 | 9 | 11 => 30
  | 2 => if isLeap year then 29 else 28
  | _ => 0

def isValid (date : Date) : Bool :=
  1 ≤ date.day && date.day ≤ daysInMonth date.year date.month

def toDays (date : Date) : Int :=
  let year := if date.month ≤ 2 then date.year - 1 else date.year
  let era := year.fdiv 400
  let yearOfEra := year.fmod 400
  let month : Int := if date.month ≤ 2 then date.month + 9 else date.month - 3
  let dayOfYear := (153 * month + 2).fdiv 5 + date.day - 1
  let dayOfEra := yearOfEra * 365 + yearOfEra.fdiv 4 - yearOfEra.fdiv 100 + dayOfYear
  era * 146097 + dayOfEra - 719468

/-- The date a number of days after 1970-01-01. -/
def ofDays (days : Int) : Date :=
  let shifted := days + 719468
  let era := shifted.fdiv 146097
  let dayOfEra := (shifted.fmod 146097).toNat
  let yearOfEra :=
    (dayOfEra - dayOfEra / 1460 + dayOfEra / 36524 - dayOfEra / 146096) / 365
  let dayOfYear := dayOfEra - (365 * yearOfEra + yearOfEra / 4 - yearOfEra / 100)
  let month := (5 * dayOfYear + 2) / 153
  let day := dayOfYear - (153 * month + 2) / 5 + 1
  let year := era * 400 + yearOfEra
  if month < 10 then ⟨year, month + 3, day⟩ else ⟨year + 1, month - 9, day⟩

end Date

/-- The first second of the year -262143. -/
def minSeconds : Int := -8334601228800

def maxSeconds : Int := 8210266876799

def nanosPerSecond : Nat := 1000000000

/-- A point in time: seconds since 1970-01-01T00:00:00Z and nanoseconds within the second.  The last
second of a minute may be twice as long, which makes room for a leap second. -/
structure Instant where
  seconds : Int
  nanos : Nat
  seconds_mem : minSeconds ≤ seconds ∧ seconds ≤ maxSeconds
  nanos_lt : nanos < nanosPerSecond ∨ (seconds % 60 = 59 ∧ nanos < 2 * nanosPerSecond)
deriving DecidableEq

namespace Instant

/-- The instant of these seconds and nanoseconds, if it is in range. -/
def ofUnix? (seconds : Int) (nanos : Nat) : Option Instant :=
  if bounded : minSeconds ≤ seconds ∧ seconds ≤ maxSeconds then
    if fine : nanos < nanosPerSecond ∨ (seconds % 60 = 59 ∧ nanos < 2 * nanosPerSecond) then
      some ⟨seconds, nanos, bounded, fine⟩
    else none
  else none

instance : Inhabited Instant := ⟨⟨0, 0, by decide, by decide⟩⟩

instance : Repr Instant :=
  ⟨fun instant _ => repr (instant.seconds, instant.nanos)⟩

def isBefore (left right : Instant) : Bool :=
  left.seconds < right.seconds || (left.seconds == right.seconds && left.nanos < right.nanos)

def truncate (instant : Instant) : Instant :=
  ⟨instant.seconds, 0, instant.seconds_mem, Or.inl (by decide)⟩

/-- The instant so many minutes later, if it is in range.  A leap second has no later counterpart
and counts as the start of the next one. -/
def addMinutes? (instant : Instant) (minutes : Int) : Option Instant :=
  ofUnix? (instant.seconds + 60 * minutes) (instant.nanos % nanosPerSecond)

end Instant

end RoleVault.Time
