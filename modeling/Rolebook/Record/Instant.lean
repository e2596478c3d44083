import Rolebook.Text.Digits

/-!
# Instants

Points in time as nanoseconds since the start of 1970, and their text with a date of the Gregorian
calendar.
-/

namespace Rolebook

open Rolebook.Text

/-- A point in time. -/
structure Instant where
  /-- Nanoseconds since the start of 1970. -/
  nanoseconds : Int
deriving DecidableEq, Repr, Inhabited

namespace Instant

/-- The instant this many seconds and nanoseconds after the start of 1970. -/
def ofSeconds (seconds nanoseconds : Int) : Instant :=
  ⟨seconds * 1000000000 + nanoseconds⟩

/-- The instant this many microseconds after the start of 1970. -/
def ofMicroseconds (microseconds : Int) : Instant :=
  ⟨microseconds * 1000⟩

/-- The instant this many nanoseconds later. -/
def later (instant : Instant) (nanoseconds : Int) : Instant :=
  ⟨instant.nanoseconds + nanoseconds⟩

/-- The last whole microsecond up to an instant. -/
def wholeMicrosecond (instant : Instant) : Instant :=
  .ofMicroseconds (instant.nanoseconds / 1000)

/-- A day of the calendar. -/
structure Date where
  year : Int
  month : Int
  day : Int
deriving DecidableEq, Repr

/-- The date this many days after the start of 1970. Years are counted from March on, so that a leap
day is the last day of its year, in cycles of 400 years. -/
def Date.ofDays (days : Int) : Date :=
  let shifted := days + 719468
  let cycle := shifted / 146097
  let dayOfCycle := shifted % 146097
  let yearOfCycle :=
    (dayOfCycle - dayOfCycle / 1460 + dayOfCycle / 36524 - dayOfCycle / 146096) / 365
  let dayOfYear := dayOfCycle - (365 * yearOfCycle + yearOfCycle / 4 - yearOfCycle / 100)
  let monthFromMarch := (5 * dayOfYear + 2) / 153
  let day := dayOfYear - (153 * monthFromMarch + 2) / 5 + 1
  let month := if monthFromMarch < 10 then monthFromMarch + 3 else monthFromMarch - 9
  let year := yearOfCycle + cycle * 400 + (if month ≤ 2 then 1 else 0)
  ⟨year, month, day⟩

/-- The digits of a number with leading zeros. -/
def padded (width : Nat) (n : Int) : List Char :=
  toPaddedDigits 10 width n.toNat

/-- The text of a year. Years before 0 and after 9999 have a sign. -/
def yearText (year : Int) : List Char :=
  if year < 0 then '-' :: padded 4 (-year)
  else if 9999 < year then '+' :: padded 4 year
  else padded 4 year

/-- The text of a fraction of a second, in thousandths, millionths or billionths, whichever is the
first to be exact. -/
def fractionText (nanoseconds : Int) : List Char :=
  if nanoseconds = 0 then []
  else if nanoseconds % 1000000 = 0 then '.' :: padded 3 (nanoseconds / 1000000)
  else if nanoseconds % 1000 = 0 then '.' :: padded 6 (nanoseconds / 1000)
  else '.' :: padded 9 nanoseconds

/-- The text of an instant, by the clock of Greenwich. -/
def render (instant : Instant) : String :=
  let seconds := instant.nanoseconds / 1000000000
  let date := Date.ofDays (seconds / 86400)
  let secondOfDay := seconds % 86400
  String.ofList <|
    yearText date.year ++ '-' :: padded 2 date.month ++ '-' :: padded 2 date.day ++
      'T' :: padded 2 (secondOfDay / 3600) ++ ':' :: padded 2 (secondOfDay / 60 % 60) ++
        ':' :: padded 2 (secondOfDay % 60) ++
        fractionText (instant.nanoseconds % 1000000000) ++ ['Z']

end Instant

end Rolebook
