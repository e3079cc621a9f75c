import ArrivalManager.Text.Digits
import ArrivalManager.Time

/-! Instants as dates and times of day in the Gregorian calendar, and the text that shows them. -/

namespace ArrivalManager

/-- A day of the Gregorian calendar, which is also used for the years before its introduction. -/
structure CivilDate where
  year : Int
  month : Int
  day : Int
deriving DecidableEq

/--
The date a number of days after 1970-01-01.

Years are counted from March, so that the leap day comes last and the lengths of the months follow
one linear rule; 400 such years are one era of 146097 days.
-/
def CivilDate.ofDays (days : Int) : CivilDate :=
  -- Day 0 of the first era is 0000-03-01.
  let shifted := days + 719468
  let era := shifted / 146097
  let dayOfEra := shifted % 146097
  let yearOfEra := (dayOfEra - dayOfEra / 1460 + dayOfEra / 36524 - dayOfEra / 146096) / 365
  let dayOfYear := dayOfEra - (365 * yearOfEra + yearOfEra / 4 - yearOfEra / 100)
  let monthFromMarch := (5 * dayOfYear + 2) / 153
  let month := if monthFromMarch < 10 then monthFromMarch + 3 else monthFromMarch - 9
  { -- January and February belong to the year that began the March before.
    year := yearOfEra + era * 400 + if month ≤ 2 then 1 else 0
    month
    day := dayOfYear - (153 * monthFromMarch + 2) / 5 + 1 }

/-- A year has four digits; one outside 0 to 9999 carries its sign and as many as it needs. -/
def yearText (year : Int) : String :=
  let digits := paddedDigits 4 year.natAbs
  if year < 0 then "-" ++ digits else if 9999 < year then "+" ++ digits else digits

/-- The fraction of a second in three, six or nine digits, the fewest that are exact. -/
def subsecondText (nanos : Nat) : String :=
  if nanos = 0 then ""
  else if nanos % 1000000 = 0 then "." ++ paddedDigits 3 (nanos / 1000000)
  else if nanos % 1000 = 0 then "." ++ paddedDigits 6 (nanos / 1000)
  else "." ++ paddedDigits 9 nanos

/-- The time of day after so many seconds since midnight. -/
def timeOfDayText (second : Nat) : String :=
  paddedDigits 2 (second / 3600) ++ ":" ++ paddedDigits 2 (second / 60 % 60) ++ ":"
    ++ paddedDigits 2 (second % 60)

namespace Instant

/-- Seconds since 1970-01-01 00:00:00 UTC, rounded down. -/
def wholeSeconds (time : Instant) : Int := time.nanos / nanosPerSecond

/-- The seconds since the last midnight. -/
def secondOfDay (time : Instant) : Nat := (time.wholeSeconds % 86400).toNat

/-- Date, time of day and zone, as in `2024-01-01 10:00:00 UTC`. -/
def display (time : Instant) : String :=
  let date := CivilDate.ofDays (time.wholeSeconds / 86400)
  yearText date.year ++ "-" ++ paddedDigits 2 date.month.toNat ++ "-"
    ++ paddedDigits 2 date.day.toNat ++ " " ++ timeOfDayText time.secondOfDay
    ++ subsecondText (time.nanos % nanosPerSecond).toNat ++ " UTC"

end Instant

end ArrivalManager
