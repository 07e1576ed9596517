import PasswordVault.Time.Calendar

/-!
# Points in time

An instant is a number of microseconds from the start of 1970 in universal time. A timestamp is what
a clock shows: a date, a time of day and, if the clock says so, how far it is ahead of universal
time. Without that the clock is read as showing universal time.

* `instant` is the instant of a timestamp, `ofInstant` the timestamp of an instant in universal
  time.
* `render` writes a timestamp in the extended format of ISO 8601.
-/

namespace PasswordVault

/-- Microseconds from the start of 1970 in universal time. -/
abbrev Instant := Int

structure TimeOfDay where
  hour : Nat
  minute : Nat
  second : Nat
  microsecond : Nat
  deriving DecidableEq, Repr

namespace TimeOfDay

def midnight : TimeOfDay := ⟨0, 0, 0, 0⟩

/-- Whether a clock shows the time. -/
def Valid (t : TimeOfDay) : Prop :=
  t.hour < 24 ∧ t.minute < 60 ∧ t.second < 60 ∧ t.microsecond < 1000000

instance (t : TimeOfDay) : Decidable t.Valid :=
  inferInstanceAs (Decidable (_ ∧ _ ∧ _ ∧ _))

/-- The microseconds since midnight. -/
def microseconds (t : TimeOfDay) : Nat :=
  ((t.hour * 60 + t.minute) * 60 + t.second) * 1000000 + t.microsecond

/-- The time a number of microseconds after midnight. -/
def ofMicroseconds (n : Nat) : TimeOfDay :=
  ⟨n / 3600000000, n / 60000000 % 60, n / 1000000 % 60, n % 1000000⟩

end TimeOfDay

/-- What a clock shows, with the microseconds it is ahead of universal time if it tells. -/
structure Timestamp where
  date : Date
  time : TimeOfDay
  offset : Option Int
  deriving DecidableEq, Repr

namespace Timestamp

/-- The microseconds of a day. -/
def dayLength : Nat := 86400000000

/-- The number of the first day of 1970. -/
def epochDay : Nat := 719163

/-- Whether a clock shows the timestamp; it is less than a day ahead or behind. -/
def Valid (t : Timestamp) : Prop :=
  t.date.Valid ∧ t.time.Valid ∧ ∀ o ∈ t.offset, -(dayLength : Int) < o ∧ o < dayLength

instance (t : Timestamp) : Decidable t.Valid :=
  inferInstanceAs (Decidable (_ ∧ _ ∧ ∀ o ∈ t.offset, _))

def instant (t : Timestamp) : Instant :=
  ((t.date.dayNumber : Int) - epochDay) * dayLength + t.time.microseconds - t.offset.getD 0

/-- The timestamp of an instant that the calendar has, in universal time. -/
def ofInstant (i : Instant) : Timestamp :=
  let day := Int.fdiv i dayLength
  let rest := Int.fmod i dayLength
  ⟨Date.ofDayNumber (day + epochDay).toNat, TimeOfDay.ofMicroseconds rest.toNat, some 0⟩

/-- The timestamp of an instant in universal time, if the calendar has it. -/
def ofInstant? (i : Instant) : Option Timestamp :=
  let t := ofInstant i
  if t.Valid ∧ t.instant = i then some t else none

/-! ### Writing -/

/-- The decimal digits of a number, filled up with zeros to a width. -/
def padded (width n : Nat) : List Char :=
  let ds := Nat.toDigits 10 n
  List.replicate (width - ds.length) '0' ++ ds

/-- An offset: a letter for none, or a sign, hours and minutes. -/
def renderOffset (offset : Int) : List Char :=
  if offset = 0 then ['Z']
  else
    let minutes := offset.natAbs / 60000000
    (if offset < 0 then '-' else '+') :: padded 2 (minutes / 60) ++ ':' :: padded 2 (minutes % 60)

/-- A timestamp; microseconds are written unless there are none. -/
def render (t : Timestamp) : List Char :=
  padded 4 t.date.year ++ '-' :: padded 2 t.date.month ++ '-' :: padded 2 t.date.day
    ++ 'T' :: padded 2 t.time.hour ++ ':' :: padded 2 t.time.minute ++ ':' :: padded 2 t.time.second
    ++ (if t.time.microsecond = 0 then [] else '.' :: padded 6 t.time.microsecond)
    ++ (t.offset.map renderOffset).getD []

/-- The text of a timestamp. -/
def toText (t : Timestamp) : String :=
  String.ofList t.render

end Timestamp

end PasswordVault
