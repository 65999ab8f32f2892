/-!
# Instants

Points in time, and the calendar that dates them.
-/

namespace Tagging.Time

/-!
## The calendar

Days counted from 1 January of the year 0 and their dates, by the Gregorian rule carried on in both
directions.
-/

/-- A day of a month of a year. -/
structure Date where
  year : Int
  month : Nat
  day : Nat
  deriving DecidableEq, Repr

/-- The year has a 29 February. -/
def isLeap (year : Int) : Bool :=
  year % 4 = 0 ∧ (year % 100 ≠ 0 ∨ year % 400 = 0)

/-- The days before a year begins. -/
def daysBeforeYear (year : Int) : Int :=
  365 * year + (year + 3) / 4 - (year + 99) / 100 + (year + 399) / 400

/-- The year that a day belongs to: the mean length of a year gives it up to one, and one look at
its first and last day decides. -/
def yearOf (day : Int) : Int :=
  let year := day * 400 / 146097
  if day < daysBeforeYear year then year - 1
  else if daysBeforeYear (year + 1) ≤ day then year + 1
  else year

/-- The lengths of the months of a year. -/
def monthLengths (year : Int) : List Nat :=
  [31, if isLeap year then 29 else 28, 31, 30, 31, 30, 31, 31, 30, 31, 30, 31]

/-- The place among parts of given lengths where an offset falls: how many parts lie before it, and
how far it lies in the next. -/
def locate : List Nat → Nat → Nat × Nat
  | [], offset => (0, offset)
  | length :: lengths, offset =>
    if offset < length then (0, offset)
    else
      let (parts, rest) := locate lengths (offset - length)
      (parts + 1, rest)

/-- The date of a day. -/
def Date.ofDay (day : Int) : Date :=
  let year := yearOf day
  let (months, days) := locate (monthLengths year) (day - daysBeforeYear year).toNat
  ⟨year, months + 1, days + 1⟩

/-- The date exists. -/
def Date.isValid (date : Date) : Bool :=
  1 ≤ date.month ∧ 1 ≤ date.day ∧ date.day ≤ (monthLengths date.year).getD (date.month - 1) 0

/-- The days of a year before a month begins. -/
def daysBeforeMonth (year : Int) (month : Nat) : Nat :=
  ((monthLengths year).take (month - 1)).foldl (· + ·) 0

/-- The day of a date. -/
def Date.toDay (date : Date) : Int :=
  daysBeforeYear date.year + daysBeforeMonth date.year date.month + (date.day - 1)

end Tagging.Time

namespace Tagging

/-!
## Points in time

A point in time by the common clock, to the nanosecond. During a leap second the nanoseconds count
on past the last second of a minute. The range is that of the years from -262143 to 262142.
-/

/-- A point in time: a day, counted from 1 January 1970, a second of that day, and nanoseconds. -/
structure Instant where
  day : Int
  second : Nat
  nano : Nat
  day_ge : -96465292 ≤ day
  day_le : day ≤ 95026236
  second_lt : second < 86400
  nano_lt : nano < 1000000000 ∨ second % 60 = 59 ∧ nano < 2000000000
  deriving DecidableEq

namespace Instant

/-- The days before 1 January 1970, counted from 1 January of the year 0. -/
def epoch : Int := 719528

/-- The beginning of 1 January 1970. -/
def origin : Instant := ⟨0, 0, 0, by decide, by decide, by decide, by decide⟩

instance : Inhabited Instant := ⟨origin⟩

/-- The instant with the given parts, if there is one. -/
def ofParts? (day : Int) (second nano : Nat) : Option Instant :=
  if h : -96465292 ≤ day ∧ day ≤ 95026236 ∧ second < 86400 ∧
      (nano < 1000000000 ∨ second % 60 = 59 ∧ nano < 2000000000) then
    some ⟨day, second, nano, h.1, h.2.1, h.2.2.1, h.2.2.2⟩
  else none

/-- The instant so many seconds and nanoseconds after 1 January 1970, if it is in range. -/
def ofSeconds? (seconds : Int) (nano : Nat) : Option Instant :=
  ofParts? (seconds / 86400) (seconds % 86400).toNat nano

/-- The whole seconds since 1 January 1970. -/
def seconds (instant : Instant) : Int :=
  instant.day * 86400 + instant.second

/-- The date. -/
def date (instant : Instant) : Time.Date :=
  Time.Date.ofDay (instant.day + epoch)

end Instant

end Tagging
