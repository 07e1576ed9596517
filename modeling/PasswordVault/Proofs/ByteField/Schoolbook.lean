import PasswordVault.ByteField.Integer
import PasswordVault.Proofs.ByteField.Residue

/-!
# Polynomials multiplied by hand

A byte is a polynomial by its bits. Two of them are multiplied by hand in two steps: the one is
shifted once for each bit of the other and all is added up without carries, and then every bit
beyond the eighth is taken away, from the highest on, by adding a multiple of `0x11D`. The first
step multiplies the residues and the second keeps them, so the product of the tables is this one,
and the value of a polynomial at a byte is the sum of its terms, each of them computed by hand.

* `carryless`, `reduce`, `schoolbook`: the two steps, and the product by hand;
* `residueBelow_carryless`, `residueBelow_reduce`: what they do to residues;
* `mul_eq_schoolbook`: **the product of the tables is the one by hand**;
* `eval_eq_schoolbook`: **the value of a polynomial is the sum of its terms**, and additive.
-/

namespace PasswordVault.ByteField

/-! ### By hand -/

/-- The sum without carries of `a`, shifted once for each of the `count` lowest bits of `b`. -/
def carryless (a b : ℕ) : (count : ℕ) → ℕ
  | 0 => 0
  | n + 1 => carryless a b n ^^^ if b.testBit n then a <<< n else 0

/-- The remainder modulo `0x11D` of a number with at most `count` bits beyond the eighth. -/
def reduce : (count p : ℕ) → ℕ
  | 0, p => p
  | n + 1, p => reduce n (if p.testBit (8 + n) then p ^^^ 0x11D <<< n else p)

/-- The product by hand. -/
def schoolbook (a b : UInt8) : UInt8 :=
  UInt8.ofNat (reduce 8 (carryless a.toNat b.toNat 8))

/-- The powers by hand. -/
def schoolbookPower (x : UInt8) : ℕ → UInt8
  | 0 => 1
  | i + 1 => schoolbook (schoolbookPower x i) x

def sum (xs : List UInt8) : UInt8 :=
  xs.foldr (· ^^^ ·) 0

/-- The terms of a polynomial, of which the first has the given degree. -/
def termsFrom (degree : ℕ) (coefficients : List UInt8) (x : UInt8) : List UInt8 :=
  (coefficients.zipIdx degree).map fun (c, i) => schoolbook c (schoolbookPower x i)

/-- The terms of a polynomial, the constant one first. -/
def terms (coefficients : List UInt8) (x : UInt8) : List UInt8 :=
  termsFrom 0 coefficients x

/-! ### The two steps -/

theorem shiftLeft_lt {a : ℕ} (ha : a < 2 ^ 8) (n : ℕ) : a <<< n < 2 ^ (n + 8) := by
  rw [Nat.shiftLeft_eq, pow_add, mul_comm]
  exact Nat.mul_lt_mul_of_pos_left ha (Nat.two_pow_pos n)

theorem carryless_lt {a : ℕ} (ha : a < 2 ^ 8) (b n : ℕ) : carryless a b n < 2 ^ (n + 8) := by
  induction n with
  | zero => exact Nat.two_pow_pos _
  | succ n ih =>
    have hle : 2 ^ (n + 8) ≤ 2 ^ (n + 1 + 8) := Nat.pow_le_pow_right (by decide) (by omega)
    refine Nat.xor_lt_two_pow (ih.trans_le hle) ?_
    split_ifs
    · exact (shiftLeft_lt ha n).trans_le hle
    · exact Nat.two_pow_pos _

/-- **The sum of shifts** has the product of the residues. -/
theorem residueBelow_carryless (a : UInt8) (b n : ℕ) :
    residueBelow (n + 8) (carryless a.toNat b n) = residue a * residueBelow n b := by
  induction n with
  | zero => simp [carryless, residueBelow]
  | succ n ih =>
    have hshift : residueBelow (n + 8) (a.toNat <<< n) = AdjoinRoot.root modulus ^ n * residue a :=
      residueBelow_shiftLeft 8 a.toNat n
    rw [show n + 1 + 8 = n + 8 + 1 by omega, carryless, residueBelow_xor,
      residueBelow_of_lt (carryless_lt a.toNat_lt b n), ih, residueBelow_succ n, mul_add]
    congr 1
    split_ifs
    · rw [residueBelow_of_lt (shiftLeft_lt a.toNat_lt n), hshift, mul_comm]
    · rw [mul_zero]
      simp [residueBelow]

theorem residueBelow_modulus : residueBelow 9 0x11D = 0 := by
  have hlow : residueBelow 8 0x11D = residue 0x1D := (residueBelow_mod 8 0x11D).symm
  rw [residueBelow_succ, hlow, if_pos (by decide), root_pow_eight, add_self_residues]

/-- Adding a multiple of `0x11D` takes the highest bit away. -/
theorem xor_modulus_lt {p n : ℕ} (hp : p < 2 ^ (8 + (n + 1))) (hb : p.testBit (8 + n) = true) :
    p ^^^ 0x11D <<< n < 2 ^ (8 + n) := by
  refine Nat.lt_pow_two_of_testBit _ fun i hi => ?_
  rw [Nat.testBit_xor, Nat.testBit_shiftLeft]
  rcases Nat.eq_or_lt_of_le hi with rfl | hlt
  · rw [hb, Nat.add_sub_cancel]
    simp
    decide
  · have hpi : p.testBit i = false :=
      Nat.testBit_lt_two_pow (hp.trans_le (Nat.pow_le_pow_right (by decide) (by omega)))
    have hmi : Nat.testBit 0x11D (i - n) = false :=
      Nat.testBit_lt_two_pow ((by decide : 0x11D < 2 ^ 9).trans_le
        (Nat.pow_le_pow_right (by decide) (by omega)))
    rw [hpi, hmi]
    simp

/-- **The remainder** is a byte, and has the residue of the number. -/
theorem residueBelow_reduce {n p : ℕ} (hp : p < 2 ^ (8 + n)) :
    reduce n p < 2 ^ 8 ∧ residueBelow 8 (reduce n p) = residueBelow (8 + n) p := by
  induction n generalizing p with
  | zero => exact ⟨hp, rfl⟩
  | succ n ih =>
    rw [reduce]
    split_ifs with hb
    · obtain ⟨hlt, hres⟩ := ih (xor_modulus_lt hp hb)
      have hmodulus : residueBelow (8 + (n + 1)) (0x11D <<< n) = 0 := by
        rw [show 8 + (n + 1) = n + 9 by omega, residueBelow_shiftLeft, residueBelow_modulus,
          mul_zero]
      refine ⟨hlt, hres.trans ?_⟩
      calc residueBelow (8 + n) (p ^^^ 0x11D <<< n)
          = residueBelow (8 + (n + 1)) (p ^^^ 0x11D <<< n) :=
            (residueBelow_of_lt (xor_modulus_lt hp hb) 1).symm
        _ = residueBelow (8 + (n + 1)) p := by rw [residueBelow_xor, hmodulus, add_zero]
    · have hlow : p < 2 ^ (8 + n) := by
        refine Nat.lt_pow_two_of_testBit _ fun i hi => ?_
        rcases Nat.eq_or_lt_of_le hi with rfl | hlt
        · exact Bool.eq_false_iff.mpr hb
        · exact Nat.testBit_lt_two_pow (hp.trans_le (Nat.pow_le_pow_right (by decide) (by omega)))
      obtain ⟨hlt, hres⟩ := ih hlow
      exact ⟨hlt, hres.trans (residueBelow_of_lt hlow 1).symm⟩

/-! ### The product of the tables -/

/-- **The product of the tables is the one by hand.** -/
theorem mul_eq_schoolbook (a b : UInt8) : mul a b = schoolbook a b := by
  obtain ⟨hlt, hres⟩ := residueBelow_reduce (n := 8) (carryless_lt a.toNat_lt b.toNat 8)
  have hbyte : (schoolbook a b).toNat = reduce 8 (carryless a.toNat b.toNat 8) := by
    rw [schoolbook, UInt8.toNat_ofNat', Nat.mod_eq_of_lt hlt]
  have hr : residue (mul a b) = residue (schoolbook a b) := by
    calc residue (mul a b) = residue a * residue b := residue_mul a b
      _ = residueBelow 16 (carryless a.toNat b.toNat 8) := (residueBelow_carryless a b.toNat 8).symm
      _ = residueBelow 8 (reduce 8 (carryless a.toNat b.toNat 8)) := hres.symm
      _ = residue (schoolbook a b) := by rw [← hbyte, residueBelow_toNat]
  have he : (⟨mul a b⟩ : Element) = ⟨schoolbook a b⟩ := residueHom_injective hr
  exact congrArg Element.byte he

theorem mk_schoolbookPower (x : UInt8) (i : ℕ) :
    (⟨schoolbookPower x i⟩ : Element) = ⟨x⟩ ^ i := by
  induction i with
  | zero => rfl
  | succ i ih =>
    rw [schoolbookPower, ← mul_eq_schoolbook, pow_succ, ← ih]
    rfl

/-! ### The value of a polynomial -/

theorem mk_sum_termsFrom (degree : ℕ) (coefficients : List UInt8) (x : UInt8) :
    (⟨sum (termsFrom degree coefficients x)⟩ : Element) =
      ⟨eval coefficients x⟩ * ⟨x⟩ ^ degree := by
  induction coefficients generalizing degree with
  | nil => exact (zero_mul _).symm
  | cons c cs ih =>
    have hterm : (⟨schoolbook c (schoolbookPower x degree)⟩ : Element) = ⟨c⟩ * ⟨x⟩ ^ degree := by
      rw [← mul_eq_schoolbook, ← mk_schoolbookPower]
      rfl
    have hsum : (⟨sum (termsFrom degree (c :: cs) x)⟩ : Element) =
        ⟨schoolbook c (schoolbookPower x degree)⟩ + ⟨sum (termsFrom (degree + 1) cs x)⟩ := rfl
    have heval : (⟨eval (c :: cs) x⟩ : Element) = ⟨eval cs x⟩ * ⟨x⟩ + ⟨c⟩ := rfl
    rw [hsum, hterm, ih, heval]
    ring

theorem eval_eq_sum_terms (coefficients : List UInt8) (x : UInt8) :
    eval coefficients x = sum (terms coefficients x) := by
  have h := mk_sum_termsFrom 0 coefficients x
  rw [pow_zero, mul_one] at h
  exact (congrArg Element.byte h).symm

theorem eval_zipWith_xor {coefficients other : List UInt8}
    (h : other.length = coefficients.length) (x : UInt8) :
    eval (List.zipWith (· ^^^ ·) coefficients other) x =
      eval coefficients x ^^^ eval other x := by
  induction coefficients generalizing other with
  | nil =>
    obtain rfl := List.eq_nil_of_length_eq_zero h
    exact (UInt8.xor_self (a := 0)).symm
  | cons c cs ih =>
    obtain ⟨d, ds, rfl⟩ := List.exists_cons_of_length_eq_add_one h
    have hs := ih (Nat.succ.inj h)
    change mul (eval (List.zipWith (· ^^^ ·) cs ds) x) x ^^^ (c ^^^ d) =
      (mul (eval cs x) x ^^^ c) ^^^ (mul (eval ds x) x ^^^ d)
    rw [hs, ByteField.mul_comm, mul_xor, ByteField.mul_comm x, ByteField.mul_comm x]
    ac_rfl

theorem valueAt_toNat (coefficients : List UInt8) (x : UInt8) :
    valueAt coefficients x.toNat = .ok (eval coefficients x) := by
  induction coefficients with
  | nil => rfl
  | cons c cs ih =>
    rw [valueAt] at ih
    rw [valueAt, List.foldrM_cons, ih]
    change (· ^^^ c) <$> productOf (eval cs x).toNat x.toNat = _
    rw [productOf_toNat]
    rfl

/-- **The value of a polynomial is the sum of its terms.** Products and powers are those by hand,
and the sum of two polynomials has the sum of their values. -/
theorem eval_eq_schoolbook (coefficients : List UInt8) (x : UInt8) :
    eval coefficients x = sum (terms coefficients x) ∧
    valueAt coefficients x.toNat = .ok (sum (terms coefficients x)) ∧
    ∀ other : List UInt8, other.length = coefficients.length →
      eval (List.zipWith (· ^^^ ·) coefficients other) x =
        eval coefficients x ^^^ eval other x := by
  have h := eval_eq_sum_terms coefficients x
  exact ⟨h, h ▸ valueAt_toNat coefficients x, fun other hl => eval_zipWith_xor hl x⟩

/-- Two polynomials of degree two at a point whose powers overflow. -/
theorem eval_eq_schoolbook_at_large_point :
    terms [1, 2, 0xff] 0x8e = [1, 1, 0xf6] ∧
    eval [1, 2, 0xff] 0x8e = sum (terms [1, 2, 0xff] 0x8e) ∧
    eval [0x11, 0x22, 0xcc] 0x8e = eval [1, 2, 0xff] 0x8e ^^^ eval [0x10, 0x20, 0x33] 0x8e := by
  obtain ⟨hterms, -, hsum⟩ := eval_eq_schoolbook [1, 2, 0xff] 0x8e
  exact ⟨by decide +kernel, hterms, hsum [0x10, 0x20, 0x33] (by decide)⟩

end PasswordVault.ByteField
