import PasswordVault.Bytes
import PasswordVault.Error

/-!
# The field with 256 elements

Bytes are polynomials over the field with two elements, modulo `x^8 + x^4 + x^3 + x^2 + 1`; addition
is the exclusive or. The class of `x` generates the multiplicative group, so products and quotients
go through a table of its powers and the table of their exponents.

* `eval` evaluates a polynomial, the constant term first;
* `basisAtZero` has the values at zero of the Lagrange basis for given points.
-/

namespace PasswordVault.ByteField

/-- The product with the generator: a shift, reduced when it overflows. -/
def double (a : UInt8) : UInt8 :=
  if a < 128 then a <<< 1 else (a <<< 1) ^^^ 0x1D

/-- The first `count` products of `a` with powers of the generator. -/
def powersFrom : (count : Nat) → UInt8 → List UInt8
  | 0, _ => []
  | count + 1, a => a :: powersFrom count (double a)

/-- The 255 powers of the generator: every element but zero, once. -/
def powers : List UInt8 :=
  powersFrom 255 1

/-- The powers of the generator, twice over so that a sum of two exponents needs no reduction, and
filled with zeros to 512 entries. -/
def expTable : Array UInt8 :=
  (powers ++ powers ++ [0, 0]).toArray

/-- The exponent of each element, with zero for the element zero, which has none. -/
def logTable : Array UInt8 :=
  ((List.range 256).map fun a =>
    if a = 0 then 0 else UInt8.ofNat (powers.idxOf (UInt8.ofNat a))).toArray

/-- The power of the generator. -/
def exp (n : Nat) : UInt8 :=
  expTable.getD n 0

/-- The exponent of an element. -/
def log (a : UInt8) : Nat :=
  (logTable.getD a.toNat 0).toNat

def mul (a b : UInt8) : UInt8 :=
  if a = 0 ∨ b = 0 then 0 else exp (log a + log b)

/-- The quotient; nothing is divided by zero. -/
def div (a b : UInt8) : Except Error UInt8 :=
  if b = 0 then .error .divisionByZero
  else if a = 0 then .ok 0
  else .ok (exp ((log a + 255 - log b) % 255))

def product (xs : List UInt8) : UInt8 :=
  xs.foldl mul 1

/-- The value at `x` of the polynomial with the given coefficients, the constant term first. -/
def eval (coefficients : List UInt8) (x : UInt8) : UInt8 :=
  coefficients.foldr (fun c value => mul value x ^^^ c) 0

/-- The value at zero of the basis polynomial that is one at `x` and zero at all the others. -/
def basisValue (x : UInt8) (others : List UInt8) : Except Error UInt8 :=
  div (product others) (product (others.map fun y => x ^^^ y))

/-- The values at zero of the Lagrange basis for the points `xs`. -/
def basisAtZero (xs : List UInt8) : Except Error (List UInt8) :=
  xs.zipIdx.mapM fun (x, i) => basisValue x (xs.eraseIdx i)

end PasswordVault.ByteField
