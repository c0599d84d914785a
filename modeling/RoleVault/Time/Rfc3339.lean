import RoleVault.Text.Decimal
import RoleVault.Text.Scan
import RoleVault.Time.Calendar

/-!
Contract: the text of instants.

Owns:
- `render`, with a fraction of no, three, six or nine digits and a signed year outside 0 to 9999;
- `parse?`, the strict reader of stored times;
- `parseLenient?`, the reader of times in session tokens, which also takes signed years, blanks
  between the parts and looser zones.

Does not own: which times are acceptable where they are used.
-/

namespace RoleVault.Time.Rfc3339

open RoleVault.Text RoleVault.Text.CharClass RoleVault.Text.Scan

/-! ## Writing -/

/-- A year of four digits, signed outside 0 to 9999. -/
def year (value : Int) : String :=
  if 0 ≤ value ∧ value ≤ 9999 then Decimal.padded 4 value.toNat
  else (if value < 0 then "-" else "+") ++ Decimal.padded 4 value.natAbs

/-- The fraction of a second: none, or the fewest of three, six or nine digits that lose nothing. -/
def fraction (nanos : Nat) : String :=
  if nanos = 0 then ""
  else if nanos % 1000000 = 0 then "." ++ Decimal.padded 3 (nanos / 1000000)
  else if nanos % 1000 = 0 then "." ++ Decimal.padded 6 (nanos / 1000)
  else "." ++ Decimal.padded 9 nanos

/-- The second within its minute and the nanoseconds within that second; a leap second is the
sixty-first. -/
def clock (instant : Instant) : Nat × Nat :=
  let second := (instant.seconds.fmod 60).toNat
  if instant.nanos < nanosPerSecond then (second, instant.nanos)
  else (second + 1, instant.nanos - nanosPerSecond)

/-- The text of an instant, closed by a spelling of the zero offset. -/
def render (zone : String) (instant : Instant) : String :=
  let date := Date.ofDays (instant.seconds.fdiv 86400)
  let secondOfDay := (instant.seconds.fmod 86400).toNat
  let (second, nanos) := clock instant
  year date.year ++ "-" ++ Decimal.padded 2 date.month ++ "-" ++ Decimal.padded 2 date.day ++ "T" ++
    Decimal.padded 2 (secondOfDay / 3600) ++ ":" ++ Decimal.padded 2 (secondOfDay / 60 % 60) ++
    ":" ++ Decimal.padded 2 second ++ fraction nanos ++ zone

/-- The text of an instant with the zone `Z`. -/
def renderZulu (instant : Instant) : String :=
  render "Z" instant

/-- The text of an instant with the zone `+00:00`. -/
def renderOffset (instant : Instant) : String :=
  render "+00:00" instant

/-! ## Reading -/

/-- The text without its leading blanks. -/
def dropBlanks (chars : List Char) : List Char :=
  chars.dropWhile isBlank

def separator : Step Unit
  | first :: rest => if first = 'T' || first = 't' || first = ' ' then some ((), rest) else none
  | [] => none

/-- The digits after the decimal point, as nanoseconds; digits after the ninth are dropped. -/
def fractionDigits : Step Nat := fun chars => do
  let (value, rest) ← number 1 9 chars
  let written := chars.length - rest.length
  return (value * Nat.pow 10 (9 - written), rest.dropWhile isDigit)

def optionalFraction : Step Nat
  | '.' :: rest => fractionDigits rest
  | chars => some (0, chars)

/-- The sign of an offset: plus, hyphen or minus sign. -/
def offsetSign : Step Int
  | first :: rest =>
    if first = '+' then some (1, rest)
    else if first = '-' || first = '\u2212' then some (-1, rest)
    else none
  | [] => none

/-- Minutes of an offset, two digits below sixty. -/
def offsetMinutes : Step Nat := fun chars => do
  let (minutes, rest) ← number 2 2 chars
  if minutes < 60 then some (minutes, rest) else none

/-- An offset in seconds, where `colon` takes what stands between hours and minutes. -/
def offset (colon : List Char → Option (List Char)) : Step Int
  | first :: rest =>
    if first = 'Z' || first = 'z' then some (0, rest)
    else do
      let (sign, rest) ← offsetSign (first :: rest)
      let (hours, rest) ← number 2 2 rest
      let (minutes, rest) ← offsetMinutes (← colon rest)
      return (sign * (hours * 3600 + minutes * 60), rest)
  | [] => none

structure Reading where
  year : Int
  month : Nat
  day : Nat
  hour : Nat
  minute : Nat
  second : Nat
  nanos : Nat
  offset : Int
deriving DecidableEq, Repr

/-- The instant of a reading, if its date is in the calendar, its time on the clock, and its offset
shorter than a day.  The second sixty is a leap second. -/
def Reading.toInstant? (reading : Reading) : Option Instant :=
  let date : Date := ⟨reading.year, reading.month, reading.day⟩
  if date.isValid && -262143 ≤ reading.year && reading.year ≤ 262142 && reading.hour < 24 &&
      reading.minute < 60 && reading.second ≤ 60 && reading.offset.natAbs < 86400 then
    let leap := reading.second == 60
    let second := if leap then 59 else reading.second
    Instant.ofUnix?
      (date.toDays * 86400 + reading.hour * 3600 + reading.minute * 60 + second - reading.offset)
      (if leap then reading.nanos + nanosPerSecond else reading.nanos)
  else none

/-- Reads the form of exactly four, two and two digits, `T`, three times two digits, an optional
fraction, and an offset of at most 23:59 with its colon. -/
def parse? (text : String) : Option Instant := do
  let (year, rest) ← number 4 4 text.toList
  let (_, rest) ← literal '-' rest
  let (month, rest) ← number 2 2 rest
  let (_, rest) ← literal '-' rest
  let (day, rest) ← number 2 2 rest
  let (_, rest) ← separator rest
  let (hour, rest) ← number 2 2 rest
  let (_, rest) ← literal ':' rest
  let (minute, rest) ← number 2 2 rest
  let (_, rest) ← literal ':' rest
  let (second, rest) ← number 2 2 rest
  let (nanos, rest) ← optionalFraction rest
  let (offset, rest) ← offset (fun chars => (literal ':' chars).map Prod.snd) rest
  if rest.isEmpty then
    Reading.toInstant? ⟨year, month, day, hour, minute, second, nanos, offset⟩
  else none

/-- A year with a sign and any number of digits, or without a sign and at most four. -/
def signedYear : Step Int
  | '-' :: rest => (number 1 rest.length rest).map fun (value, rest) => (-value, rest)
  | '+' :: rest => (number 1 rest.length rest).map fun (value, rest) => (value, rest)
  | chars => (number 1 4 chars).map fun (value, rest) => (value, rest)

/-- One or two digits after blanks. -/
def looseNumber : Step Nat := fun chars => number 1 2 (dropBlanks chars)

/-- A given character after blanks. -/
def looseLiteral (char : Char) : Step Unit := fun chars => literal char (dropBlanks chars)

/-- A zone: `UTC` in any case, or an offset with colons or blanks or nothing between its parts. -/
def looseOffset : Step Int := fun chars =>
  match chars with
  | one :: two :: three :: rest =>
    if [one, two, three].map Char.toUpper == ['U', 'T', 'C'] then some (0, rest)
    else offset (fun chars => some (chars.dropWhile fun char => char == ':' || isBlank char)) chars
  | _ => offset (fun chars => some (chars.dropWhile fun char => char == ':' || isBlank char)) chars

/-- Reads the looser form: parts of one or two digits, blanks around them, and any zone. -/
def parseLenient? (text : String) : Option Instant := do
  let (year, rest) ← signedYear (dropBlanks text.toList)
  let (_, rest) ← looseLiteral '-' rest
  let (month, rest) ← looseNumber rest
  let (_, rest) ← looseLiteral '-' rest
  let (day, rest) ← looseNumber rest
  let (_, rest) ← separator rest
  let (hour, rest) ← looseNumber rest
  let (_, rest) ← looseLiteral ':' rest
  let (minute, rest) ← looseNumber rest
  let (_, rest) ← looseLiteral ':' rest
  let (second, rest) ← looseNumber rest
  let (nanos, rest) ← optionalFraction rest
  let (offset, rest) ← looseOffset (dropBlanks rest)
  if (dropBlanks rest).isEmpty then
    Reading.toInstant? ⟨year, month, day, hour, minute, second, nanos, offset⟩
  else none

end RoleVault.Time.Rfc3339
