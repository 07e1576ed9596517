import PasswordVault.Time.Stored

/-!
# Reading ISO 8601

The formats of ISO 8601 in their basic and extended forms: calendar dates and week dates, one
character of any kind, a time of day down to microseconds, and an offset down to microseconds. Where
a week date leaves open which character stands between date and time, it is the one that leaves
pairs of digits behind it. Characters after the time are passed over if an offset follows them;
where no fraction comes before them, only one character of ASCII is.

* `ofIso8601?` reads a timestamp.
-/

namespace PasswordVault.Timestamp

/-- The place of the character between date and time, or the end of the text. -/
def datePartLength? (cs : List Char) : Option Nat :=
  let n := cs.length
  let c := fun i => cs.getD i ' '
  if n = 7 then some 7
  else if c 4 = '-' then
    if c 5 = 'W' then
      if n > 8 ∧ c 8 = '-' then
        if n = 9 then none else if n > 10 ∧ (c 10).isDigit then some 8 else some 10
      else some 8
    else some 10
  else if c 4 = 'W' then
    let digits := ((cs.drop 7).takeWhile Char.isDigit).length
    if digits < 2 then some (7 + digits) else if digits % 2 = 1 then some 7 else some 8
  else some 8

/-- The day of the week after a week, Monday if none is given. -/
def isoWeekday? (extended : Bool) (cs : List Char) : Option Nat :=
  if cs.isEmpty then some 1
  else do
    let cs ← if extended then expect? (fun c => c = '-') cs else some cs
    let (day, _) ← fixedDigits? 1 0 cs
    return day

/-- A date in one of the formats. -/
def isoDate? (cs : List Char) : Option Date := do
  let (year, cs) ← fixedDigits? 4 0 cs
  let (extended, cs) := match cs with
    | '-' :: rest => (true, rest)
    | cs => (false, cs)
  match cs with
  | 'W' :: cs => do
    let (week, cs) ← fixedDigits? 2 0 cs
    let day ← isoWeekday? extended cs
    let n ← Date.weekDayNumber? year week day
    if year = 0 ∨ n < 1 then none else return Date.ofDayNumber n.toNat
  | cs => do
    let (month, cs) ← fixedDigits? 2 0 cs
    let cs ← if extended then expect? (fun c => c = '-') cs else some cs
    let (day, _) ← fixedDigits? 2 0 cs
    return ⟨year, month, day⟩

/-- The hours, the minutes and the seconds as far as they are given, the microseconds, and whether
nothing was left after them. -/
structure ClockReading where
  parts : List Nat
  microsecond : Nat
  complete : Bool

/-- Whether a text ends here; a zero character ends it as well. -/
def isEnd : List Char → Bool
  | [] => true
  | c :: _ => c.toNat = 0

/-- The reading with a fraction. -/
def isoFraction? (parts : List Nat) (cs : List Char) : Option ClockReading :=
  let ds := cs.take 6
  if ds.isEmpty ∨ !ds.all Char.isDigit then none
  else some ⟨parts, microsecondsOf ds, isEnd ((cs.drop 6).dropWhile Char.isDigit)⟩

/-- The reading of at most `slots` further parts; `colons` says whether they have colons between
them, once that is known. -/
def isoClock? :
    (slots : Nat) → (colons : Option Bool) → (parts : List Nat) → List Char → Option ClockReading
  | 0, _, parts, cs => isoFraction? parts cs
  | slots + 1, colons, parts, cs => do
    let (part, rest) ← fixedDigits? 2 0 cs
    let parts := parts ++ [part]
    match rest with
    | [] => return ⟨parts, 0, true⟩
    | [c] => if c.toNat < 128 then return ⟨parts, 0, isEnd [c]⟩ else none
    | c :: more =>
      let colons := colons.getD (c = ':')
      if colons ∧ c = ':' then isoClock? slots (some colons) parts more
      else if c = '.' ∨ c = ',' then isoFraction? parts more
      else if colons then none
      else isoClock? slots (some colons) parts rest

/-- The seconds that the parts of a reading make. -/
def ClockReading.seconds (r : ClockReading) : Nat :=
  (r.parts.getD 0 0 * 60 + r.parts.getD 1 0) * 60 + r.parts.getD 2 0

/-- The time of day of a reading. -/
def ClockReading.time (r : ClockReading) : TimeOfDay :=
  ⟨r.parts.getD 0 0, r.parts.getD 1 0, r.parts.getD 2 0, r.microsecond⟩

/-- An offset after its sign; without whole seconds it is none at all. -/
def isoOffset? (negative : Bool) (cs : List Char) : Option Int := do
  let r ← isoClock? 3 none [] cs
  if !r.complete then none
  else if r.seconds = 0 then return 0
  else
    let size : Int := r.seconds * 1000000 + r.microsecond
    return if negative then -size else size

/-- A time of day with or without an offset. -/
def isoTime? (cs : List Char) : Option (TimeOfDay × Option Int) := do
  let isSign := fun c => c = '+' || c = '-'
  let clock ← isoClock? 3 none [] (cs.takeWhile fun c => !isSign c)
  match cs.dropWhile fun c => !isSign c with
  | [] => if clock.complete then return (clock.time, none) else none
  | sign :: rest =>
    let offset ← isoOffset? (sign = '-') rest
    return (clock.time, some offset)

/-- A timestamp in one of the formats of ISO 8601. -/
def ofIso8601? (cs : List Char) : Option Timestamp := do
  let length ← datePartLength? cs
  let date ← isoDate? (cs.take length)
  let (time, offset) ← match cs.drop length with
    | [] => some (TimeOfDay.midnight, none)
    | _ :: rest => isoTime? rest
  let t : Timestamp := ⟨date, time, offset⟩
  if t.Valid then return t else none

end PasswordVault.Timestamp
