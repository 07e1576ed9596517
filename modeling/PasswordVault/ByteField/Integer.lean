import PasswordVault.ByteField

/-!
# Integers as field elements

Callers may give integers where elements are meant. Zero is told from the others before anything is
looked up; any other integer stands for the element at its place in the table of exponents, and a
negative one counts from the end of the table. Integers outside of the table stand for nothing.

* `productOf`, `quotientOf`, `valueAt` and `basisOf` compute with integers;
* `productOf_toNat`: on elements, the product is the one of the field.
-/

namespace PasswordVault.ByteField

/-- The exponent at the place of an integer. -/
def exponentAt (n : Int) : Except Error Nat :=
  if 0 ≤ n ∧ n < 256 then .ok (log (UInt8.ofNat n.toNat))
  else if -256 ≤ n ∧ n < 0 then .ok (log (UInt8.ofNat (n + 256).toNat))
  else .error .notAnElement

def productOf (a b : Int) : Except Error UInt8 :=
  if a = 0 ∨ b = 0 then .ok 0
  else do
    let m ← exponentAt a
    let n ← exponentAt b
    return exp (m + n)

/-- The quotient of two integers; nothing is divided by zero. -/
def quotientOf (a b : Int) : Except Error UInt8 :=
  if b = 0 then .error .divisionByZero
  else if a = 0 then .ok 0
  else do
    let m ← exponentAt a
    let n ← exponentAt b
    return exp ((m + 255 - n) % 255)

/-- The value at an integer of the polynomial with the given coefficients, the constant term
first. -/
def valueAt (coefficients : List UInt8) (x : Int) : Except Error UInt8 :=
  coefficients.foldrM (fun c value => (· ^^^ c) <$> productOf value.toNat x) 0

/-- The exclusive or of two integers in two's complement. -/
def exclusiveOr : Int → Int → Int
  | .ofNat m, .ofNat n => .ofNat (m ^^^ n)
  | .ofNat m, .negSucc n => .negSucc (m ^^^ n)
  | .negSucc m, .ofNat n => .negSucc (m ^^^ n)
  | .negSucc m, .negSucc n => .ofNat (m ^^^ n)

def productOfAll (xs : List Int) : Except Error UInt8 :=
  xs.foldlM (fun product x => productOf product.toNat x) 1

/-- The values at zero of the Lagrange basis for the points `xs`. -/
def basisOf (xs : List Int) : Except Error (List UInt8) :=
  xs.zipIdx.mapM fun (x, i) => do
    let others := xs.eraseIdx i
    let numerator ← productOfAll others
    let denominator ← productOfAll (others.map (exclusiveOr x))
    div numerator denominator

theorem exponentAt_toNat (a : UInt8) : exponentAt a.toNat = .ok (log a) := by
  have h : 0 ≤ (a.toNat : Int) ∧ (a.toNat : Int) < 256 := ⟨by omega, by have := a.toNat_lt; omega⟩
  rw [exponentAt, if_pos h, Int.toNat_natCast, UInt8.ofNat_toNat]

theorem toNat_eq_zero_iff (a : UInt8) : (a.toNat : Int) = 0 ↔ a = 0 := by
  rw [Int.natCast_eq_zero, ← UInt8.toNat_inj]
  rfl

theorem productOf_toNat (a b : UInt8) : productOf a.toNat b.toNat = .ok (mul a b) := by
  by_cases h : a = 0 ∨ b = 0
  · have h' : (a.toNat : Int) = 0 ∨ (b.toNat : Int) = 0 := by
      rwa [toNat_eq_zero_iff, toNat_eq_zero_iff]
    rw [productOf, if_pos h', mul, if_pos h]
  · have h' : ¬ ((a.toNat : Int) = 0 ∨ (b.toNat : Int) = 0) := by
      rwa [toNat_eq_zero_iff, toNat_eq_zero_iff]
    rw [productOf, if_neg h', mul, if_neg h, exponentAt_toNat, exponentAt_toNat]
    rfl

end PasswordVault.ByteField
