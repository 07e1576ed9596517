/-!
# The calendar

Dates of the Gregorian calendar, extended to all years from one on, and their numbers: day 1 is the
first day of year 1. Weeks follow ISO 8601: they start on a Monday, and the first week of a year is
the one with its first Thursday.

* `dayNumber` and `ofDayNumber` go from dates to their numbers and back.
-/

namespace PasswordVault

structure Date where
  year : Nat
  month : Nat
  day : Nat
  deriving DecidableEq, Repr

namespace Date

def isLeapYear (year : Nat) : Bool :=
  year % 4 = 0 && (year % 100 ≠ 0 || year % 400 = 0)

def monthLengths (year : Nat) : List Nat :=
  [31, if isLeapYear year then 29 else 28, 31, 30, 31, 30, 31, 31, 30, 31, 30, 31]

def monthLength (year month : Nat) : Nat :=
  (monthLengths year).getD (month - 1) 0

/-- Whether the calendar has the date, within the years 1 to 9999. -/
def Valid (d : Date) : Prop :=
  1 ≤ d.year ∧ d.year ≤ 9999 ∧ 1 ≤ d.month ∧ d.month ≤ 12 ∧ 1 ≤ d.day
    ∧ d.day ≤ monthLength d.year d.month

instance (d : Date) : Decidable d.Valid :=
  inferInstanceAs (Decidable (_ ∧ _ ∧ _ ∧ _ ∧ _ ∧ _))

/-- The number of days before a year. -/
def daysBeforeYear (year : Nat) : Nat :=
  let y := year - 1
  365 * y + y / 4 - y / 100 + y / 400

/-- The number of days before a month of a year. -/
def daysBeforeMonth (year month : Nat) : Nat :=
  ((monthLengths year).take (month - 1)).foldl (fun n length => n + length) 0

def dayNumber (d : Date) : Nat :=
  daysBeforeYear d.year + daysBeforeMonth d.year d.month + d.day

/-- The month and the day of the month of the day with a number within the year, from zero on. -/
def monthAndDay : (lengths : List Nat) → (month n : Nat) → Nat × Nat
  | [], month, n => (month, n + 1)
  | length :: rest, month, n =>
    if n < length then (month, n + 1) else monthAndDay rest (month + 1) (n - length)

/-- The year of the day with a number from zero on, and the number of the day within the year. -/
def yearAndDay (n : Nat) : Nat × Nat :=
  let guess := n / 366 + 1
  let year :=
    (List.range 30).foldl (fun y _ => if daysBeforeYear (y + 1) ≤ n then y + 1 else y) guess
  (year, n - daysBeforeYear year)

/-- The date with a number from one on. -/
def ofDayNumber (n : Nat) : Date :=
  let (year, day) := yearAndDay (n - 1)
  let (month, day) := monthAndDay (monthLengths year) 1 day
  ⟨year, month, day⟩

/-- The weekday of a date, with zero for Monday. -/
def weekday (d : Date) : Nat :=
  (d.dayNumber + 6) % 7

/-- The number of the Monday of the first week of a year. -/
def firstMonday (year : Nat) : Int :=
  let first : Date := ⟨year, 1, 1⟩
  let monday : Int := (first.dayNumber : Int) - first.weekday
  if first.weekday > 3 then monday + 7 else monday

/-- Whether a year has 53 weeks: it begins on a Thursday, or on a Wednesday with a leap day to
come. -/
def hasLongYear (year : Nat) : Bool :=
  let first : Date := ⟨year, 1, 1⟩
  first.weekday = 3 || (first.weekday = 2 && isLeapYear year)

/-- The number of a day of a week of a year, if the year has the week and the week the day. -/
def weekDayNumber? (year week day : Nat) : Option Int :=
  if (1 ≤ week ∧ week ≤ 52 ∨ week = 53 ∧ hasLongYear year) ∧ 1 ≤ day ∧ day ≤ 7 then
    some (firstMonday year + ((week - 1) * 7 + (day - 1) : Nat))
  else none

end Date

end PasswordVault
