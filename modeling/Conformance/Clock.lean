/-!
# Points in time

A point in time by the calendar, as it stands in file names, on the page and in the summary. A year
of up to four digits has four; any other year has a sign and at least four. The program is taken to
run where local time is universal time: a clock has no offset from it.
-/

namespace Conformance

/-- A point in time, without a time zone. -/
structure Clock where
  year : Int
  month : Nat
  day : Nat
  hour : Nat
  minute : Nat
  second : Nat
  nanosecond : Nat
  deriving Repr, DecidableEq, Inhabited

namespace Clock

/-- A number with zeros in front up to a width. -/
def padded (width n : Nat) : String :=
  let ds := toString n
  String.ofList (List.replicate (width - ds.length) '0') ++ ds

/-- A year as it is written. -/
def yearText (y : Int) : String :=
  if 0 ≤ y && y ≤ 9999 then padded 4 y.toNat
  else (if y < 0 then "-" else "+") ++ padded 4 y.natAbs

/-- The second as it is written: a leap second counts its excess in nanoseconds. -/
def secondText (c : Clock) : String := padded 2 (c.second + c.nanosecond / 1000000000)

/-- Date and time without marks between the numbers of each. -/
def compact (c : Clock) : String :=
  yearText c.year ++ padded 2 c.month ++ padded 2 c.day ++ "_"
    ++ padded 2 c.hour ++ padded 2 c.minute ++ c.secondText

/-- The date with hyphens. -/
def dateText (c : Clock) : String :=
  yearText c.year ++ "-" ++ padded 2 c.month ++ "-" ++ padded 2 c.day

/-- The time with colons. -/
def timeText (c : Clock) : String :=
  padded 2 c.hour ++ ":" ++ padded 2 c.minute ++ ":" ++ c.secondText

/-- Date and time for a reader. -/
def plain (c : Clock) : String := c.dateText ++ " " ++ c.timeText

/-- The fraction of a second in none, three, six or nine digits, whichever suffice. -/
def fractionText (n : Nat) : String :=
  if n = 0 then ""
  else if n % 1000000 = 0 then "." ++ padded 3 (n / 1000000)
  else if n % 1000 = 0 then "." ++ padded 6 (n / 1000)
  else "." ++ padded 9 n

/-- Date and time in the format of the internet, with the offset of universal time. -/
def internet (c : Clock) : String :=
  c.dateText ++ "T" ++ c.timeText ++ fractionText (c.nanosecond % 1000000000) ++ "Z"

/-- Year, month and day of a day, counted from the first of March of the year zero. Months count
from March there, so that a leap day is the last of its year. -/
def dayOf (days : Int) : Int × Nat × Nat :=
  let era := Int.fdiv days 146097
  let day := (Int.fmod days 146097).toNat
  let year := (day - day / 1460 + day / 36524 - day / 146096) / 365
  let dayOfYear := day - (365 * year + year / 4 - year / 100)
  let month := (5 * dayOfYear + 2) / 153
  let number := dayOfYear - (153 * month + 2) / 5 + 1
  if month < 10 then (400 * era + year, month + 3, number)
  else (400 * era + year + 1, month - 9, number)

/-- The point in time, so many nanoseconds after the year 1970 began in universal time. -/
def ofNanoseconds (n : Int) : Clock :=
  let seconds := Int.fdiv n 1000000000
  let (year, month, day) := dayOf (Int.fdiv seconds 86400 + 719468)
  let second := (Int.fmod seconds 86400).toNat
  ⟨year, month, day, second / 3600, second / 60 % 60, second % 60, (Int.fmod n 1000000000).toNat⟩

example : ofNanoseconds 1709647629000000000 = ⟨2024, 3, 5, 14, 7, 9, 0⟩ := by decide
example : ofNanoseconds 951827696000000001 = ⟨2000, 2, 29, 12, 34, 56, 1⟩ := by decide
example : ofNanoseconds (-1) = ⟨1969, 12, 31, 23, 59, 59, 999999999⟩ := by decide

end Clock

end Conformance
