/-!
# Double precision numbers

A number of double precision is a sign, a significand below `2^53` and a power of two. All
arithmetic goes through exact fractions: the result is the number nearest to the exact one, and of
two nearest the one with the even significand.

* `ofRatio` rounds a fraction, `ofScientific` a decimal;
* `ratio` is the fraction that a finite number is.
-/

namespace PasswordVault

/-- A number of double precision: a signed significand times a power of two, infinite, or no number
at all. -/
inductive Binary64 where
  | finite (negative : Bool) (significand : Nat) (exponent : Int)
  | infinite (negative : Bool)
  | notANumber
  deriving DecidableEq, Repr

namespace Binary64

/-- The least power of two that a significand is multiplied with. -/
def leastExponent : Int := -1074

/-- The greatest power of two that a significand is multiplied with. -/
def greatestExponent : Int := 971

/-- The integer nearest to `num / den`, an even one if two are. -/
def roundHalfEven (num den : Nat) : Nat :=
  let q := num / den
  let r := num % den
  if 2 * r < den then q
  else if 2 * r > den then q + 1
  else if q % 2 = 0 then q else q + 1

/-- The fraction `num / den` times a power of two. -/
def scale (num den : Nat) (power : Int) : Nat × Nat :=
  if 0 ≤ power then (num * Nat.pow 2 power.toNat, den) else (num, den * Nat.pow 2 (-power).toNat)

/-- The fraction `num / den` times a power of ten. -/
def scaleTen (num den : Nat) (power : Int) : Nat × Nat :=
  if 0 ≤ power then (num * Nat.pow 10 power.toNat, den) else (num, den * Nat.pow 10 (-power).toNat)

/-- The power of two that the fraction's significand is multiplied with. -/
def exponentOf (num den : Nat) : Int :=
  let guess : Int := (Nat.log2 num : Int) - (Nat.log2 den : Int) - 52
  let (a, b) := scale num den (-guess)
  max leastExponent (if a < b * Nat.pow 2 52 then guess - 1 else guess)

/-- The number of double precision nearest to `num / den`. -/
def ofRatio (negative : Bool) (num den : Nat) : Binary64 :=
  if num = 0 then .finite negative 0 leastExponent
  else
    let exponent := exponentOf num den
    let (a, b) := scale num den (-exponent)
    let significand := roundHalfEven a b
    let (significand, exponent) :=
      if significand = Nat.pow 2 53 then (Nat.pow 2 52, exponent + 1) else (significand, exponent)
    if exponent > greatestExponent then .infinite negative
    else .finite negative significand exponent

def ofInt (n : Int) : Binary64 :=
  ofRatio (n < 0) n.natAbs 1

def digitCount (n : Nat) : Nat :=
  (Nat.toDigits 10 n).length

/-- The number of double precision nearest to `digits * 10 ^ power`. Decimals far beyond the range
are infinite or zero whatever their digits are. -/
def ofScientific (negative : Bool) (digits : Nat) (power : Int) : Binary64 :=
  if digits = 0 then .finite negative 0 leastExponent
  else if (digitCount digits : Int) + power > 400 then .infinite negative
  else if (digitCount digits : Int) + power < -400 then .finite negative 0 leastExponent
  else
    let (num, den) := scaleTen digits 1 power
    ofRatio negative num den

/-- The size of a finite number as a fraction. -/
def magnitude (significand : Nat) (exponent : Int) : Nat × Nat :=
  scale significand 1 exponent

/-- A finite number as a fraction with its sign. -/
def ratio? : Binary64 → Option (Int × Nat)
  | .finite negative significand exponent =>
    let (num, den) := magnitude significand exponent
    some (if negative then -num else num, den)
  | _ => none

/-- Whether the number is above zero; what is no number is not. -/
def isPositive : Binary64 → Bool
  | .finite negative significand _ => !negative && significand ≠ 0
  | .infinite negative => !negative
  | .notANumber => false

end Binary64

end PasswordVault
