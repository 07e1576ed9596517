import PasswordVault.Number.Binary64

/-!
# Shortest decimals

A number of double precision is written with the fewest decimal digits that are read back as the
same number, and of those with the digits nearest to it. For each count of digits there are two
candidates, the neighbours of the number on that decimal grid; the first count with a candidate
among the reals that round to the number wins. A style says where powers of ten are written out.
-/

namespace PasswordVault

/-- A positive decimal: digits, as a number that ten does not divide, times a power of ten. -/
structure Decimal where
  digits : Nat
  power : Int
  deriving DecidableEq, Repr

namespace Decimal

/-- The power of ten of the first digit. -/
def leading (d : Decimal) : Int :=
  Binary64.digitCount d.digits - 1 + d.power

/-- The decimal without zeros at its end; `fuel` bounds their number. -/
def trim : (fuel : Nat) → Decimal → Decimal
  | 0, d => d
  | fuel + 1, d =>
    if d.digits % 10 = 0 ∧ d.digits ≠ 0 then trim fuel ⟨d.digits / 10, d.power + 1⟩ else d

/-- The power of ten of the first digit of the fraction `num / den`. -/
def leadingPower (num den : Nat) : Int :=
  if den ≤ num then Binary64.digitCount (num / den) - 1
  else -(Binary64.digitCount ((den + num - 1) / num - 1) : Int)

/-- The reals that round to the number `mid`: multiples of `2 ^ power` from `low` to `high`, which
belong to them if the interval is `closed`. -/
structure Interval where
  low : Nat
  mid : Nat
  high : Nat
  power : Int
  closed : Bool

/-- The reals that round to a positive number. Below a power of two the numbers lie twice as
close. -/
def Interval.around (significand : Nat) (exponent : Int) : Interval where
  low := if significand = Nat.pow 2 52 ∧ exponent ≠ Binary64.leastExponent
    then 4 * significand - 1 else 4 * significand - 2
  mid := 4 * significand
  high := 4 * significand + 2
  power := exponent - 2
  closed := significand % 2 = 0

/-- Whether `digits * 10 ^ power` rounds to the number. -/
def Interval.contains (i : Interval) (digits : Nat) (power : Int) : Bool :=
  let (a, b) := Binary64.scaleTen digits 1 power
  let (scaled, unit) := Binary64.scale a b (-i.power)
  if i.closed then i.low * unit ≤ scaled && scaled ≤ i.high * unit
  else i.low * unit < scaled && scaled < i.high * unit

/-- The candidate with last digit at `power`, if one of the two neighbours of the number rounds to
it. -/
def candidate? (i : Interval) (power : Int) : Option Decimal :=
  let (num, den) := Binary64.scale i.mid 1 i.power
  let (a, b) := Binary64.scaleTen num den (-power)
  let below := a / b
  let nearest := Binary64.roundHalfEven a b
  let other := if nearest = below then below + 1 else below
  if i.contains nearest power && nearest ≠ 0 then some ⟨nearest, power⟩
  else if i.contains other power && other ≠ 0 then some ⟨other, power⟩
  else none

/-- The shortest decimal of a positive number; seventeen digits are always enough. -/
def shortest (significand : Nat) (exponent : Int) : Decimal :=
  let i := Interval.around significand exponent
  let (num, den) := Binary64.magnitude significand exponent
  let first := leadingPower num den
  let found := (List.range 17).findSome? fun (n : Nat) => candidate? i (first - n)
  trim 20 (found.getD ⟨0, 0⟩)

/-- How decimals are written: without an exponent if the power of ten of the first digit is between
`least` and `greatest`, and otherwise with one of at least `exponentDigits` digits. -/
structure Style where
  least : Int
  greatest : Int
  exponentDigits : Nat

/-- JSON documents have at most five zeros before the first digit. -/
def Style.json : Style := ⟨-5, 15, 1⟩

/-- Reports have at most three zeros before the first digit and two digits in an exponent. -/
def Style.report : Style := ⟨-4, 15, 2⟩

def digitChars (n : Nat) : List Char :=
  Nat.toDigits 10 n

/-- A decimal written out, with at least one digit on either side of the point. -/
def positional (d : Decimal) : List Char :=
  let cs := digitChars d.digits
  if 0 ≤ d.power then cs ++ List.replicate d.power.toNat '0' ++ ['.', '0']
  else
    let places := (-d.power).toNat
    let cs := List.replicate (places + 1 - cs.length) '0' ++ cs
    cs.take (cs.length - places) ++ '.' :: cs.drop (cs.length - places)

/-- A decimal with one digit before the point and an exponent with its sign. -/
def scientific (style : Style) (d : Decimal) : List Char :=
  let fraction := match digitChars d.digits with
    | [] => []
    | [c] => [c]
    | c :: rest => c :: '.' :: rest
  let size := digitChars d.leading.natAbs
  let size := List.replicate (style.exponentDigits - size.length) '0' ++ size
  fraction ++ 'e' :: (if d.leading < 0 then '-' else '+') :: size

def render (style : Style) (d : Decimal) : List Char :=
  if style.least ≤ d.leading ∧ d.leading ≤ style.greatest then positional d else scientific style d

end Decimal

/-- The text of a number in the given style. -/
def Binary64.render (style : Decimal.Style) : Binary64 → List Char
  | .finite negative significand exponent =>
    let digits := if significand = 0 then ['0', '.', '0']
      else Decimal.render style (Decimal.shortest significand exponent)
    if negative then '-' :: digits else digits
  | .infinite negative => if negative then "-inf".toList else "inf".toList
  | .notANumber => "nan".toList

end PasswordVault
