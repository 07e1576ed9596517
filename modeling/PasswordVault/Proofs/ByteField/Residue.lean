import PasswordVault.Proofs.ByteField.Laws
import Mathlib.Algebra.Field.ZMod
import Mathlib.RingTheory.AdjoinRoot
import Mathlib.Tactic.ComputeDegree

/-!
# The field is that of the residues modulo `0x11D`

The bits of a byte are the coefficients of a polynomial over the field with two elements, the lowest
bit first. Doubling a byte multiplies its polynomial with `X` and reduces it, and every product is
repeated doubling, so the arithmetic of the tables is that of the residues of polynomials modulo
`X^8 + X^4 + X^3 + X^2 + 1`, whose coefficients are the bits of `0x11D`.

* `modulus`, `residue`: the polynomial, and what a byte stands for;
* `residueBelow`: what the lowest bits of a number stand for, with its sums and shifts;
* `residue_xor`, `residue_mul`: the sum and the product of bytes;
* `residueHom_bijective`: **the field is that of the residues**.
-/

namespace PasswordVault.ByteField

open Polynomial

/-- The modulus `0x11D` as a polynomial. -/
noncomputable def modulus : (ZMod 2)[X] := X ^ 8 + (X ^ 4 + X ^ 3 + X ^ 2 + 1)

theorem natDegree_modulus : modulus.natDegree = 8 := by
  unfold modulus
  compute_degree!

/-- The residue of the polynomial whose coefficients are the bits of a byte. -/
noncomputable def residue (a : UInt8) : AdjoinRoot modulus :=
  ∑ i ∈ Finset.range 8, if a.toNat.testBit i then AdjoinRoot.root modulus ^ i else 0

/-! ### Sums -/

theorem add_self_residues (r : AdjoinRoot modulus) : r + r = 0 := by
  have h : (2 : AdjoinRoot modulus) = 0 := by
    rw [← map_ofNat (AdjoinRoot.of modulus) 2, show (OfNat.ofNat 2 : ZMod 2) = 0 from rfl, map_zero]
  rw [← two_mul, h, zero_mul]

theorem residue_zero : residue 0 = 0 := by
  simp [residue]

theorem residue_one : residue 1 = 1 := by
  simp +decide [residue, Finset.sum_range_succ]

/-- The residue of the polynomial whose coefficients are the `count` lowest bits of a number. -/
noncomputable def residueBelow (count p : ℕ) : AdjoinRoot modulus :=
  ∑ i ∈ Finset.range count, if p.testBit i then AdjoinRoot.root modulus ^ i else 0

theorem residueBelow_toNat (a : UInt8) : residueBelow 8 a.toNat = residue a := rfl

theorem residueBelow_succ (count p : ℕ) : residueBelow (count + 1) p =
    residueBelow count p + if p.testBit count then AdjoinRoot.root modulus ^ count else 0 :=
  Finset.sum_range_succ _ count

theorem residueBelow_xor (count p q : ℕ) :
    residueBelow count (p ^^^ q) = residueBelow count p + residueBelow count q := by
  rw [residueBelow, residueBelow, residueBelow, ← Finset.sum_add_distrib]
  refine Finset.sum_congr rfl fun i _ => ?_
  rw [Nat.testBit_xor]
  cases p.testBit i <;> cases q.testBit i <;> simp [add_self_residues]

theorem residueBelow_mod (count p : ℕ) :
    residueBelow count (p % 2 ^ count) = residueBelow count p := by
  refine Finset.sum_congr rfl fun i hi => ?_
  rw [Nat.testBit_mod_two_pow, decide_eq_true (Finset.mem_range.mp hi), Bool.true_and]

theorem residueBelow_of_lt {count p : ℕ} (h : p < 2 ^ count) (more : ℕ) :
    residueBelow (count + more) p = residueBelow count p := by
  rw [residueBelow, Finset.sum_range_add]
  refine add_eq_left.mpr (Finset.sum_eq_zero fun i _ => if_neg ?_)
  have hp : p < 2 ^ (count + i) := h.trans_le (Nat.pow_le_pow_right (by decide) (by omega))
  simp [Nat.testBit_lt_two_pow hp]

/-- A shift multiplies with a power of the root. -/
theorem residueBelow_shiftLeft (count p n : ℕ) :
    residueBelow (n + count) (p <<< n) = AdjoinRoot.root modulus ^ n * residueBelow count p := by
  rw [residueBelow, Finset.sum_range_add, residueBelow, Finset.mul_sum]
  have hlow : ∑ i ∈ Finset.range n,
      (if (p <<< n).testBit i then AdjoinRoot.root modulus ^ i else 0) = 0 :=
    Finset.sum_eq_zero fun i hi => if_neg (by simp [Finset.mem_range.mp hi])
  rw [hlow, zero_add]
  refine Finset.sum_congr rfl fun i _ => ?_
  rw [Nat.testBit_shiftLeft, Nat.add_sub_cancel_left, mul_ite, mul_zero, pow_add]
  simp

theorem residue_xor (a b : UInt8) : residue (a ^^^ b) = residue a + residue b := by
  rw [← residueBelow_toNat, UInt8.toNat_xor, residueBelow_xor]
  rfl

/-! ### Products -/

/-- The power of the root that overflows is reduced. -/
theorem root_pow_eight : AdjoinRoot.root modulus ^ 8 = residue 0x1D := by
  have h : AdjoinRoot.mk modulus (X ^ 8 + (X ^ 4 + X ^ 3 + X ^ 2 + 1)) = 0 := AdjoinRoot.mk_self
  simp only [map_add, map_pow, map_one, AdjoinRoot.mk_X] at h
  have hr : residue 0x1D = AdjoinRoot.root modulus ^ 4 + AdjoinRoot.root modulus ^ 3 +
      AdjoinRoot.root modulus ^ 2 + 1 := by
    simp +decide [residue, Finset.sum_range_succ]
    ring
  rw [hr, eq_neg_of_add_eq_zero_left h]
  exact neg_eq_of_add_eq_zero_left (add_self_residues _)

/-- The shifted byte and the bit that is lost. -/
theorem root_mul_residue (a : UInt8) : AdjoinRoot.root modulus * residue a =
    residue (a <<< 1) + if a.toNat.testBit 7 then AdjoinRoot.root modulus ^ 8 else 0 := by
  have hbyte : residueBelow 8 (a.toNat <<< 1) = residue (a <<< 1) := by
    rw [← residueBelow_toNat, UInt8.toNat_shiftLeft]
    exact (residueBelow_mod 8 _).symm
  have htop : (a.toNat <<< 1).testBit 8 = a.toNat.testBit 7 := by
    rw [Nat.testBit_shiftLeft]
    rfl
  have hshift := residueBelow_shiftLeft 8 a.toNat 1
  rw [pow_one, residueBelow_toNat, Nat.add_comm 1 8, residueBelow_succ, hbyte, htop] at hshift
  exact hshift.symm

/-- **Doubling** multiplies with the root. -/
theorem residue_double (a : UInt8) : residue (double a) = AdjoinRoot.root modulus * residue a := by
  have htop : a.toNat.testBit 7 = !decide (a >>> 7 = 0) := by
    revert a
    exact forall_byte (by decide +kernel)
  rw [double_eq, residue_xor, root_mul_residue, htop]
  by_cases h : a >>> 7 = 0
  · simp [h, residue_zero]
  · simp [h, root_pow_eight]

theorem residue_iterate_double (n : ℕ) (a : UInt8) :
    residue (double^[n] a) = AdjoinRoot.root modulus ^ n * residue a := by
  induction n with
  | zero => rw [pow_zero, one_mul, Function.iterate_zero_apply]
  | succ n ih => rw [Function.iterate_succ_apply', residue_double, ih, pow_succ', mul_assoc]

theorem residue_mul (a b : UInt8) : residue (mul a b) = residue a * residue b := by
  by_cases h : a = 0
  · rw [h, ByteField.zero_mul, residue_zero, zero_mul]
  · have ha : residue a = AdjoinRoot.root modulus ^ log a := by
      conv_lhs => rw [← iterate_log h]
      rw [residue_iterate_double, residue_one, mul_one]
    rw [mul_eq_iterate h, residue_iterate_double, ha]

/-! ### The field -/

/-- What a byte stands for, as a map of rings. -/
noncomputable def residueHom : Element →+* AdjoinRoot modulus where
  toFun a := residue a.byte
  map_one' := residue_one
  map_mul' a b := residue_mul a.byte b.byte
  map_zero' := residue_zero
  map_add' a b := residue_xor a.byte b.byte

theorem residueHom_injective : Function.Injective residueHom := by
  have hd : modulus.degree ≠ 0 := by
    intro h
    have hn := natDegree_eq_of_degree_eq_some h
    rw [natDegree_modulus] at hn
    exact absurd hn (by decide)
  have := AdjoinRoot.nontrivial modulus hd
  exact residueHom.injective

theorem residueHom_surjective : Function.Surjective residueHom := by
  intro r
  induction r using AdjoinRoot.induction_on with
  | ih p =>
    induction p using Polynomial.induction_on' with
    | add p q hp hq =>
      obtain ⟨a, ha⟩ := hp
      obtain ⟨b, hb⟩ := hq
      exact ⟨a + b, by rw [map_add, map_add, ha, hb]⟩
    | monomial n c =>
      have hpow : residueHom ⟨double^[n] 1⟩ = AdjoinRoot.root modulus ^ n := by
        rw [← mul_one (AdjoinRoot.root modulus ^ n), ← residue_one]
        exact residue_iterate_double n 1
      rw [← C_mul_X_pow_eq_monomial, map_mul, map_pow, AdjoinRoot.mk_X]
      obtain rfl | rfl : c = 0 ∨ c = 1 := by
        revert c
        decide
      · exact ⟨0, by rw [map_zero, C_0, map_zero, zero_mul]⟩
      · exact ⟨⟨double^[n] 1⟩, by rw [hpow, C_1, map_one, one_mul]⟩

/-- **The field is that of the residues** modulo `0x11D`. -/
theorem residueHom_bijective : Function.Bijective residueHom :=
  ⟨residueHom_injective, residueHom_surjective⟩

end PasswordVault.ByteField
