import PasswordVault.Error
import PasswordVault.Number.Binary64
import PasswordVault.Time.Iso8601

/-!
# The unlock window

After the password was typed, a remembered key may stand in for it for some days. When the password
was typed is known as a timestamp or as a text; a text that is no timestamp counts as never. The
days need not be whole: the window is the number of microseconds nearest to them, an even one if two
are.

* `Days.span` is the length of a window, `mayUseKey` the decision.
-/

namespace PasswordVault

/-- What is known about when the password was last typed: that it never was, what a clock showed, or
a text that writes a time. -/
inductive LastTyped where
  | never
  | shown (t : Timestamp)
  | written (text : Text)

namespace LastTyped

/-- A text in which the letter for universal time is written as an offset. -/
def spellOut (cs : List Char) : List Char :=
  cs.flatMap fun c => if c = 'Z' then "+00:00".toList else [c]

/-- The characters of a text that is read as a timestamp. Where a date and a time can be separated,
a surrogate may stand alone for the letter between them. -/
def isoChars? : Text → Option (List Char)
  | .whole s => some (spellOut s.toList)
  | .broken s _ (.whole rest) =>
    let date := spellOut s.toList
    if [7, 8, 10].contains date.length then some (date ++ 'T' :: spellOut rest.toList) else none
  | .broken _ _ (.broken ..) => none

/-- The instant at which the password was last typed. -/
def instant? : LastTyped → Option Instant
  | never => none
  | shown t => some t.instant
  | written text => (isoChars? text).bind fun cs => (Timestamp.ofIso8601? cs).map Timestamp.instant

end LastTyped

/-- A number of days, whole ones or with a last one in part. -/
inductive Days where
  | whole (count : Int)
  | part (count : Binary64)

namespace Days

/-- The greatest number of days in a span of time. -/
def greatest : Int := 999999999

/-- The span with a number of microseconds, if spans go that far. -/
def ofMicroseconds (n : Int) : Except Error Int :=
  let days := Int.fdiv n Timestamp.dayLength
  if -greatest ≤ days ∧ days ≤ greatest then .ok n else .error .windowTooLong

/-- The microseconds in a fraction of days: its whole days, and what is left as the nearest number
of double precision, rounded together. -/
def microseconds (num den : Nat) : Nat :=
  let whole := num / den * Timestamp.dayLength
  match (Binary64.ofRatio false (num % den * Timestamp.dayLength) den).ratio? with
  | some (a, b) => Binary64.roundHalfEven (whole * b + a.toNat) b
  | none => whole

/-- The length of a number of days in microseconds. -/
def span : Days → Except Error Int
  | whole count => ofMicroseconds (count * Timestamp.dayLength)
  | part .notANumber => .error .windowNotANumber
  | part count =>
    match count.ratio? with
    | some (num, den) =>
      let size : Int := microseconds num.natAbs den
      ofMicroseconds (if num < 0 then -size else size)
    | none => .error .windowTooLong

end Days

/-- Whether a remembered key may stand in for the password. -/
def mayUseKey (now : Instant) (last : LastTyped) (window : Days) : Except Error Bool :=
  match last.instant? with
  | none => .ok false
  | some typed => do
    let span ← window.span
    return now - typed ≤ span

end PasswordVault
