import PasswordVault.Number.Binary64
import PasswordVault.Text.Blank

/-!
# Numbers written in settings

Settings come as numbers or as texts, from a form or from the environment. The text of an integer
may have white space around it, a sign, leading zeros, single underscores between digits and a point
with nothing but zeros behind it. A minus sign may also follow the leading zeros. The text of a
number is a decimal with an optional exponent, or one of the words for the infinite values and for
what is no number.

* `integer?` reads an integer, `number?` a number of double precision;
* `isTooLong` tells the texts of integers that are not read because of their length.
-/

namespace PasswordVault.Written

/-- The text without the underscores between its characters; none may stand at an end or beside
another. -/
def dropUnderscores? (cs : List Char) : Option (List Char) :=
  if cs.head? = some '_' ∨ cs.getLast? = some '_' then none
  else if (List.zip cs cs.tail).contains ('_', '_') then none
  else some (cs.filter fun c => c ≠ '_')

/-- What follows the leading zeros and the underscores among them, `last` being the character
before; one zero stays when no digit follows. -/
def afterZeros? (last : Char) : List Char → Option (List Char)
  | [] => some [last]
  | c :: rest =>
    if c = '0' ∨ c = '_' then afterZeros? c rest
    else if c.isDigit ∨ c = '-' then some (c :: rest)
    else if c = '.' then some (last :: c :: rest)
    else none

/-- The text of an integer without superfluous zeros before it. -/
def dropZeros? : List Char → Option (List Char)
  | [] => none
  | c :: rest =>
    if c = '0' then afterZeros? c rest
    else if c.isDigit ∨ c = '-' then some (c :: rest)
    else none

/-- The text before a point that one or more zeros and nothing else follow, or the whole text. -/
def dropZeroPlaces (cs : List Char) : List Char :=
  match cs.dropWhile fun c => c ≠ '.' with
  | _ :: '0' :: places =>
    if places.all fun c => c = '0' then cs.takeWhile fun c => c ≠ '.' else cs
  | _ => cs

/-- The number that decimal digits without superfluous zeros write. -/
def natural? (cs : List Char) : Option Nat :=
  if cs.isEmpty ∨ !cs.all Char.isDigit ∨ (cs.head? = some '0' ∧ cs.length > 1) then none
  else some (Text.decimal cs)

/-- The most characters of an integer, a minus sign included. -/
def greatestLength : Nat := 4300

/-- Whether a text starts with more characters of an integer than are read. -/
def isTooLong (cs : List Char) : Bool :=
  let ds := if cs.head? = some '-' then cs.drop 1 else cs
  let digits := ds.takeWhile Char.isDigit
  ds.head? ≠ some '0' && (cs.length - ds.length) + digits.length > greatestLength

/-- The integer that decimal digits without superfluous zeros write, with or without a minus
sign. -/
def plainInteger? (cs : List Char) : Option Int :=
  if cs.length > greatestLength then none
  else match cs with
    | '-' :: rest => (natural? rest).map fun n => -(n : Int)
    | rest => (natural? rest).map fun n => (n : Int)

/-- The text of an integer without its sign and all that is superfluous: zeros and underscores. -/
def unsignedText? (cs : List Char) : Option (List Char) :=
  (dropZeros? cs).map fun cs =>
    let cs := dropZeroPlaces cs
    (dropUnderscores? cs).getD cs

/-- The integer that a text writes. -/
def integer? (cs : List Char) : Option Int :=
  match Text.trimBoth Text.isWhite cs with
  | '+' :: '-' :: _ => none
  | '+' :: rest => (unsignedText? rest).bind plainInteger?
  | '-' :: rest => (unsignedText? rest).bind fun cs => plainInteger? ('-' :: cs)
  | rest => (unsignedText? rest).bind plainInteger?

/-- The letters of a word in lower case, where they are ASCII. -/
def asciiLower (cs : List Char) : List Char :=
  cs.map Char.toLower

/-- The exponent that the text after the digits writes. -/
def exponent? : List Char → Option Int
  | [] => some 0
  | e :: rest =>
    if e ≠ 'e' ∧ e ≠ 'E' then none
    else
      let (negative, ds) := match rest with
        | '-' :: ds => (true, ds)
        | '+' :: ds => (false, ds)
        | ds => (false, ds)
      if ds.isEmpty ∨ !ds.all Char.isDigit then none
      else some (if negative then -(Text.decimal ds : Int) else Text.decimal ds)

/-- The number that a text without a sign writes. -/
def unsignedNumber? (negative : Bool) (cs : List Char) : Option Binary64 :=
  let lower := asciiLower cs
  if lower = "inf".toList ∨ lower = "infinity".toList then some (.infinite negative)
  else if lower = "nan".toList then some .notANumber
  else
    let whole := cs.takeWhile Char.isDigit
    let rest := cs.dropWhile Char.isDigit
    let (places, rest) := match rest with
      | '.' :: rest => (rest.takeWhile Char.isDigit, rest.dropWhile Char.isDigit)
      | rest => ([], rest)
    if whole.isEmpty ∧ places.isEmpty then none
    else (exponent? rest).map fun power =>
      let digits := Text.decimal (whole ++ places)
      Binary64.ofScientific negative digits (power - (places.length : Int))

/-- The number that a text writes, without white space around it. -/
def bareNumber? : List Char → Option Binary64
  | '-' :: rest => unsignedNumber? true rest
  | '+' :: rest => unsignedNumber? false rest
  | rest => unsignedNumber? false rest

/-- The number that a text writes, with white space around it or with underscores between its
characters. -/
def number? (cs : List Char) : Option Binary64 :=
  match bareNumber? (Text.trimBoth Text.isWhite cs) with
  | some x => some x
  | none => (dropUnderscores? cs).bind bareNumber?

end PasswordVault.Written
