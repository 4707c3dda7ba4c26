/-
  Horizon.Calendar
  ────────────────
  **DATES OF THE CALENDAR.**

  A count of milliseconds since the beginning of 1970 is written as date and time of
  universal time, `2024-01-01T00:00:00.000Z`, up to the end of the year 9999.

  Years are counted from March, so that the leap day is a year's last: then the months
  before any one have (153 m + 2) / 5 days.
-/
import Horizon.Text.Numeral

namespace Horizon.Calendar

open Text

/-- A day of the calendar. -/
structure Date where
  /-- The year. -/
  year : Nat
  /-- The month, from 1. -/
  month : Nat
  /-- The day of the month, from 1. -/
  day : Nat
  deriving Repr, DecidableEq

/-- Days from the first of March of the year 0 to the beginning of 1970. -/
def daysToEpoch : Nat := 719468

/-- The day that comes so many days after the beginning of 1970. -/
def dateOf (days : Nat) : Date :=
  let count := days + daysToEpoch
  let era := count / 146097
  let dayOfEra := count % 146097
  let yearOfEra := (dayOfEra - dayOfEra / 1460 + dayOfEra / 36524 - dayOfEra / 146096) / 365
  let dayOfYear := dayOfEra - (365 * yearOfEra + yearOfEra / 4 - yearOfEra / 100)
  let shifted := (5 * dayOfYear + 2) / 153
  let month := if shifted < 10 then shifted + 3 else shifted - 9
  { year := yearOfEra + era * 400 + if month ≤ 2 then 1 else 0
    month
    day := dayOfYear - (153 * shifted + 2) / 5 + 1 }

/-- A number with zeros in front, to `width` digits. -/
def padded (width n : Nat) : List Char :=
  let digits := decimal n
  List.replicate (width - digits.length) '0' ++ digits

/-- The first second of the year 10000, counted from 1970. -/
def endOfTime : Nat := 253402300800

/-- Date and time at so many milliseconds after the beginning of 1970, if its year has
four digits. -/
def timestamp? (milliseconds : UInt64) : Option String :=
  let seconds := milliseconds.toNat / 1000
  if seconds < endOfTime then
    let date := dateOf (seconds / 86400)
    let second := seconds % 86400
    some (String.ofList
      (padded 4 date.year ++ '-' :: padded 2 date.month ++ '-' :: padded 2 date.day ++
        'T' :: padded 2 (second / 3600) ++ ':' :: padded 2 (second % 3600 / 60) ++
        ':' :: padded 2 (second % 60) ++ '.' :: padded 3 (milliseconds.toNat % 1000) ++ ['Z']))
  else none

end Horizon.Calendar
