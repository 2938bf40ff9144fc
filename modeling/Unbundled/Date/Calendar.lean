namespace Unbundled

/-- Seconds since the start of 1970, and nanoseconds after that second. A leap second
counts as more than `10 ^ 9` nanoseconds. -/
structure Instant where
  seconds : Int
  nanos : Nat := 0
deriving Repr, DecidableEq, Inhabited

structure Date where
  year : Int
  month : Nat
  day : Nat
deriving Repr, DecidableEq, Inhabited

namespace Date

def isLeap (year : Int) : Bool := year % 4 = 0 && (year % 100 ≠ 0 || year % 400 = 0)

def monthLength (year : Int) (month : Nat) : Nat :=
  if month = 2 then if isLeap year then 29 else 28
  else if month = 4 ∨ month = 6 ∨ month = 9 ∨ month = 11 then 30
  else 31

def isValid (d : Date) : Bool :=
  1 ≤ d.month && d.month ≤ 12 && 1 ≤ d.day && d.day ≤ monthLength d.year d.month

/-- The days of 400 years, after which the calendar repeats. -/
def cycle : Int := 146097

/-- The day number of the first of March of the year 0; day 0 is the first of January 1970. -/
def start : Int := -719468

def daysToMonth (m : Int) : Int := (153 * m + 2) / 5

/-- The days since the first of January 1970. A year is counted from March on, so that the
day that only leap years have comes last. -/
def number (d : Date) : Int :=
  let y := if d.month ≤ 2 then d.year - 1 else d.year
  let m : Int := if d.month ≤ 2 then d.month + 9 else d.month - 3
  start + y / 400 * cycle + (y % 400 * 365 + y % 400 / 4 - y % 400 / 100)
    + daysToMonth m + d.day - 1

def ofNumber (n : Int) : Date :=
  let day := (n - start) % cycle
  let year := (day - day / 1460 + day / 36524 - day / 146096) / 365
  let day := day - (year * 365 + year / 4 - year / 100)
  let m := (5 * day + 2) / 153
  let year := (n - start) / cycle * 400 + year
  let ofMonth := (day - daysToMonth m + 1).toNat
  if m < 10 then ⟨year, (m + 3).toNat, ofMonth⟩ else ⟨year + 1, (m - 9).toNat, ofMonth⟩

def weekday (n : Int) : Nat := ((n + 4) % 7).toNat

end Date

end Unbundled
