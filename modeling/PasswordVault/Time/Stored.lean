import PasswordVault.Number.Written
import PasswordVault.Time.Timestamp

/-!
# Reading stored timestamps

A stored timestamp is a date, or a date and a time, both in the extended format, with an offset or
without. A number, or a text that writes one, is a count of seconds from the start of 1970, or of
milliseconds if it is large. The fraction of a written second is cut to microseconds, that of a
number is rounded to them.

* `ofText?` reads a text, `ofCount?` and `ofNumber?` read numbers.
-/

namespace PasswordVault.Timestamp

/-- The number that `count` decimal digits write, and the characters after them. -/
def fixedDigits? : (count : Nat) → (value : Nat) → List Char → Option (Nat × List Char)
  | 0, value, cs => some (value, cs)
  | count + 1, value, c :: rest =>
    if c.isDigit then fixedDigits? count (value * 10 + (c.toNat - 48)) rest else none
  | _ + 1, _, [] => none

/-- The rest after an expected character. -/
def expect? (p : Char → Bool) : List Char → Option (List Char)
  | c :: rest => if p c then some rest else none
  | [] => none

/-- A date in the extended format. -/
def storedDate? (cs : List Char) : Option (Date × List Char) := do
  let (year, cs) ← fixedDigits? 4 0 cs
  let cs ← expect? (fun c => c = '-') cs
  let (month, cs) ← fixedDigits? 2 0 cs
  let cs ← expect? (fun c => c = '-') cs
  let (day, cs) ← fixedDigits? 2 0 cs
  let date : Date := ⟨year, month, day⟩
  if date.Valid then return (date, cs) else none

/-- The microseconds that the digits of a fraction write; more than six are cut. -/
def microsecondsOf (ds : List Char) : Nat :=
  Text.decimal ((ds ++ List.replicate 6 '0').take 6)

/-- The fraction of a second, if there is one. -/
def storedFraction? : List Char → Option (Nat × List Char)
  | c :: rest =>
    if c = '.' ∨ c = ',' then
      let ds := rest.takeWhile Char.isDigit
      if ds.isEmpty then none else some (microsecondsOf ds, rest.dropWhile Char.isDigit)
    else some (0, c :: rest)
  | [] => some (0, [])

/-- The seconds and microseconds, if there are any. -/
def storedSeconds? : List Char → Option ((Nat × Nat) × List Char)
  | ':' :: cs => do
    let (second, cs) ← fixedDigits? 2 0 cs
    let (microsecond, cs) ← storedFraction? cs
    return ((second, microsecond), cs)
  | cs => some ((0, 0), cs)

/-- A time in the extended format. -/
def storedTime? (cs : List Char) : Option (TimeOfDay × List Char) := do
  let (hour, cs) ← fixedDigits? 2 0 cs
  let cs ← expect? (fun c => c = ':') cs
  let (minute, cs) ← fixedDigits? 2 0 cs
  let ((second, microsecond), cs) ← storedSeconds? cs
  let time : TimeOfDay := ⟨hour, minute, second, microsecond⟩
  if time.Valid then return (time, cs) else none

/-- The hours and minutes of an offset, as microseconds; a colon may stand between them. -/
def storedOffsetSize? (cs : List Char) : Option Nat := do
  let (hours, cs) ← fixedDigits? 2 0 cs
  let (minutes, cs) ← fixedDigits? 2 0 (match cs with | ':' :: rest => rest | cs => cs)
  if hours < 24 ∧ minutes < 60 ∧ cs.isEmpty then return (hours * 60 + minutes) * 60000000 else none

/-- The offset that the rest of a text writes, if it writes one; the minus sign may be the
typographic one. -/
def storedOffset? : List Char → Option (Option Int)
  | [] => some none
  | c :: rest =>
    if c = 'Z' ∨ c = 'z' then if rest.isEmpty then some (some 0) else none
    else if c = '+' then (storedOffsetSize? rest).map fun n => some (n : Int)
    else if c = '-' ∨ c = Char.ofNat 0x2212 then
      (storedOffsetSize? rest).map fun n => some (-(n : Int))
    else none

/-- Whether a character may stand between a date and a time. -/
def isTimeMark (c : Char) : Bool :=
  c = 'T' || c = 't' || c = ' ' || c = '_'

/-- A date alone, or a date and a time with or without an offset. -/
def storedForm? (cs : List Char) : Option Timestamp := do
  let (date, cs) ← storedDate? cs
  if cs.isEmpty then return ⟨date, .midnight, none⟩
  else
    let cs ← expect? isTimeMark cs
    let (time, cs) ← storedTime? cs
    let offset ← storedOffset? cs
    return ⟨date, time, offset⟩

/-! ### Numbers -/

/-- Counts beyond this size are milliseconds. -/
def secondsLimit : Nat := 20000000000

/-- The timestamp of a count of seconds, or of milliseconds. -/
def ofCount? (count : Int) : Option Timestamp :=
  ofInstant? (count * (if count.natAbs > secondsLimit then 1000 else 1000000))

/-- The integer nearest to `num / den`, the larger one if two are. -/
def roundHalfUp (num den : Nat) : Nat :=
  (2 * num + den) / (2 * den)

/-- The microseconds in a part of a unit of `unit` microseconds; the part and the product are
numbers of double precision before the product is rounded. -/
def microsecondsOfPart (unit num den : Nat) : Nat :=
  match (Binary64.ofRatio false num den).ratio? with
  | none => 0
  | some (a, b) =>
    match (Binary64.ofRatio false (a.toNat * unit) b).ratio? with
    | none => 0
    | some (a, b) => roundHalfUp a.toNat b

/-- The timestamp of a number of seconds, or of milliseconds: its whole units, rounded down, and the
microseconds in what is left. -/
def ofNumber? (x : Binary64) : Option Timestamp := do
  let (num, den) ← x.ratio?
  let unit : Nat := if num.natAbs > secondsLimit * den then 1000 else 1000000
  ofInstant? (Int.fdiv num den * unit + microsecondsOfPart unit (Int.fmod num den).toNat den)

/-- The timestamp of a text that writes a count, with or without a point. -/
def ofWrittenCount? (cs : List Char) : Option Timestamp :=
  let (negative, ds) := match cs with
    | '-' :: ds => (true, ds)
    | '+' :: ds => (false, ds)
    | ds => (false, ds)
  let count := Text.decimal (ds.takeWhile Char.isDigit)
  if count ≥ Nat.pow 2 63 then none
  else match ds.dropWhile Char.isDigit with
    | [] => if ds.isEmpty then none else ofCount? (if negative then -(count : Int) else count)
    | '.' :: _ => (Written.bareNumber? cs).bind ofNumber?
    | _ => none

/-- The timestamp that a text writes. -/
def ofText? (text : String) : Option Timestamp :=
  match storedForm? text.toList with
  | some t => some t
  | none => ofWrittenCount? text.toList

end PasswordVault.Timestamp
