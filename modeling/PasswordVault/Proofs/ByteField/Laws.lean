import PasswordVault.ByteField
import Mathlib.Algebra.Field.MinimalAxioms
import Mathlib.Data.Fintype.Card
import Mathlib.Dynamics.PeriodicPts.Defs

/-!
# The table arithmetic is that of a field

The product goes through tables of exponents. What makes it a product is that multiplying with the
generator, `double`, is additive and runs through all elements but zero: then `mul a` is `double`
repeated `log a` times (`mul_eq_iterate`), and every law of a field is a law of repeating an
additive map.

* `exp_eq_iterate`, `exp_log`: the tables hold the powers of the generator and their exponents;
* `Element`: a byte as an element, with `card_element` the number of elements;
* `div_eq`: the quotient of the tables is the one of the field.
-/

namespace PasswordVault.ByteField

theorem forall_byte {p : UInt8 → Prop} (h : ∀ n : Fin 256, p (UInt8.ofNat n)) (a : UInt8) :
    p a := by
  have := h ⟨a.toNat, a.toNat_lt⟩
  rwa [UInt8.ofNat_toNat] at this

/-! ### Doubling is additive -/

theorem double_eq (a : UInt8) :
    double a = (a <<< 1) ^^^ if a >>> 7 = 0 then 0 else 0x1D := by
  revert a; exact forall_byte (by decide +kernel)

theorem topBit_eq (a : UInt8) : a >>> 7 = 0 ∨ a >>> 7 = 1 := by
  revert a; exact forall_byte (by decide +kernel)

theorem double_xor (a b : UInt8) : double (a ^^^ b) = double a ^^^ double b := by
  -- The reduction depends on the top bits alone, and that of the sum is the sum of the top bits.
  have h : (if (a ^^^ b) >>> 7 = 0 then 0 else 0x1D : UInt8) =
      (if a >>> 7 = 0 then 0 else 0x1D) ^^^ if b >>> 7 = 0 then 0 else 0x1D := by
    rw [UInt8.shiftRight_xor]
    rcases topBit_eq a with ha | ha <;> rcases topBit_eq b with hb | hb <;> rw [ha, hb] <;> decide
  rw [double_eq, double_eq a, double_eq b, h, UInt8.shiftLeft_xor]
  ac_rfl

theorem double_zero : double 0 = 0 := by decide

theorem iterate_double_xor (n : ℕ) (a b : UInt8) :
    double^[n] (a ^^^ b) = double^[n] a ^^^ double^[n] b := by
  induction n generalizing a b with
  | zero => rfl
  | succ n ih => rw [Function.iterate_succ_apply, double_xor, ih]; rfl

theorem iterate_double_zero (n : ℕ) : double^[n] 0 = 0 :=
  Function.iterate_fixed double_zero n

/-- Doubling runs in a circle of 255 steps. -/
theorem iterate_double_cycle : double^[255] 1 = 1 := by decide +kernel

theorem iterate_double_mod (n : ℕ) : double^[n % 255] 1 = double^[n] 1 :=
  Function.IsPeriodicPt.iterate_mod_apply iterate_double_cycle n

/-- No fewer steps bring doubling back. -/
theorem minimalPeriod_double : Function.minimalPeriod double 1 = 255 := by
  have h := Function.IsPeriodicPt.minimalPeriod_dvd iterate_double_cycle
  have hd : ∀ d ∈ List.range 256, d ∣ 255 → double^[d] 1 = 1 → d = 255 := by decide +kernel
  have hl := Nat.lt_succ_of_le (Nat.le_of_dvd (by decide) h)
  exact hd _ (List.mem_range.mpr hl) h (Function.isPeriodicPt_minimalPeriod double 1)

theorem iterate_double_ne_zero (n : ℕ) : double^[n] 1 ≠ 0 := by
  intro h
  have hc : double^[255 * n - n + n] 1 = 1 := by
    rw [Nat.sub_add_cancel (by omega), ← iterate_double_mod]
    simp
  rw [Function.iterate_add_apply, h, iterate_double_zero] at hc
  exact absurd hc (by decide)

/-! ### The tables -/

theorem length_powersFrom (count : ℕ) (a : UInt8) : (powersFrom count a).length = count := by
  induction count generalizing a with
  | zero => rfl
  | succ n ih => simp [powersFrom, ih]

theorem getElem?_powersFrom {count i : ℕ} (h : i < count) (a : UInt8) :
    (powersFrom count a)[i]? = some (double^[i] a) := by
  induction count generalizing a i with
  | zero => omega
  | succ n ih =>
    cases i with
    | zero => rfl
    | succ i => rw [powersFrom, List.getElem?_cons_succ, ih (by omega)]; rfl

theorem length_powers : powers.length = 255 := length_powersFrom 255 1

theorem getElem?_powers {i : ℕ} (h : i < 255) : powers[i]? = some (double^[i] 1) :=
  getElem?_powersFrom h 1

/-- **The table of exponents** has the powers of the generator, as far as two exponents add up. -/
theorem exp_eq_iterate {n : ℕ} (h : n < 510) : exp n = double^[n] 1 := by
  unfold exp expTable
  rw [Array.getD_eq_getD_getElem?, List.getElem?_toArray, List.append_assoc]
  by_cases hn : n < 255
  · rw [List.getElem?_append_left (by rw [length_powers]; exact hn), getElem?_powers hn,
      Option.getD_some]
  · have hl : n - 255 < powers.length := by rw [length_powers]; omega
    rw [List.getElem?_append_right (by rw [length_powers]; omega), length_powers,
      List.getElem?_append_left hl, getElem?_powers (by omega), Option.getD_some,
      ← iterate_double_mod n, show n % 255 = n - 255 by omega]

theorem mem_powers {a : UInt8} (h : a ≠ 0) : a ∈ powers := by
  -- The 255 powers are distinct, so they are all the elements that are not zero.
  let f : ℕ → Fin 256 := fun i => (double^[i] 1).toFin
  have hf : Set.InjOn f (Finset.range 255) := fun i hi j hj h => by
    rw [Finset.coe_range, ← minimalPeriod_double] at hi hj
    exact Function.iterate_injOn_Iio_minimalPeriod hi hj (UInt8.toFin_inj.mp h)
  have hsub : (Finset.range 255).image f ⊆ Finset.univ.erase 0 := by
    intro b hb
    obtain ⟨i, -, rfl⟩ := Finset.mem_image.mp hb
    exact Finset.mem_erase.mpr
      ⟨fun h0 => iterate_double_ne_zero i (UInt8.toFin_inj.mp h0), Finset.mem_univ _⟩
  have heq := Finset.eq_of_subset_of_card_le hsub (by
    rw [Finset.card_image_of_injOn hf, Finset.card_range]; simp)
  have ha : a.toFin ∈ (Finset.range 255).image f :=
    heq ▸ Finset.mem_erase.mpr ⟨fun h0 => h (UInt8.toFin_inj.mp h0), Finset.mem_univ _⟩
  obtain ⟨i, hi, hai⟩ := Finset.mem_image.mp ha
  have := getElem?_powers (Finset.mem_range.mp hi)
  rw [UInt8.toFin_inj.mp hai] at this
  exact List.mem_of_getElem? this

theorem log_eq_idxOf {a : UInt8} (h : a ≠ 0) : log a = powers.idxOf a := by
  have ha : a.toNat ≠ 0 := fun h' => h (UInt8.toNat_inj.mp h')
  have hl : powers.idxOf a < 255 := by
    rw [← length_powers]; exact List.idxOf_lt_length_of_mem (mem_powers h)
  simp only [log, logTable, Array.getD_eq_getD_getElem?, List.getElem?_toArray, List.getElem?_map,
    List.getElem?_range a.toNat_lt, Option.map_some, Option.getD_some, if_neg ha,
    UInt8.ofNat_toNat, UInt8.toNat_ofNat']
  omega

theorem log_lt (a : UInt8) : log a < 255 := by
  by_cases h : a = 0
  · subst h; decide +kernel
  · rw [log_eq_idxOf h, ← length_powers]
    exact List.idxOf_lt_length_of_mem (mem_powers h)

/-- **The table of logarithms** inverts that of exponents. -/
theorem exp_log {a : UInt8} (h : a ≠ 0) : exp (log a) = a := by
  have hl := log_lt a
  rw [exp_eq_iterate (by omega), log_eq_idxOf h]
  rw [log_eq_idxOf h] at hl
  rw [← Option.some_inj, ← getElem?_powers hl]
  exact List.getElem?_idxOf (mem_powers h)

theorem iterate_log {a : UInt8} (h : a ≠ 0) : double^[log a] 1 = a := by
  rw [← exp_eq_iterate (by have := log_lt a; omega), exp_log h]

/-- **The product is repeated doubling.** -/
theorem mul_eq_iterate {a : UInt8} (h : a ≠ 0) (b : UInt8) : mul a b = double^[log a] b := by
  by_cases hb : b = 0
  · rw [hb, iterate_double_zero, mul, if_pos (Or.inr rfl)]
  · have ha := log_lt a
    have hl := log_lt b
    rw [mul, if_neg (by simp [h, hb]), exp_eq_iterate (by omega), Function.iterate_add_apply,
      iterate_log hb]

protected theorem mul_comm (a b : UInt8) : mul a b = mul b a := by
  simp only [mul, @or_comm (a = 0), Nat.add_comm (log a)]

protected theorem zero_mul (a : UInt8) : mul 0 a = 0 := by rw [mul, if_pos (Or.inl rfl)]

protected theorem mul_zero (a : UInt8) : mul a 0 = 0 := by rw [mul, if_pos (Or.inr rfl)]

protected theorem one_mul (a : UInt8) : mul 1 a = a := by
  have h : log 1 = 0 := by decide +kernel
  rw [mul_eq_iterate (by decide), h, Function.iterate_zero_apply]

theorem mul_xor (a b c : UInt8) : mul a (b ^^^ c) = mul a b ^^^ mul a c := by
  by_cases h : a = 0
  · rw [h, ByteField.zero_mul, ByteField.zero_mul, ByteField.zero_mul, UInt8.xor_self]
  · rw [mul_eq_iterate h, mul_eq_iterate h, mul_eq_iterate h, iterate_double_xor]

protected theorem mul_assoc (a b c : UInt8) : mul (mul a b) c = mul a (mul b c) := by
  by_cases ha : a = 0
  · rw [ha, ByteField.zero_mul, ByteField.zero_mul, ByteField.zero_mul]
  by_cases hc : c = 0
  · rw [hc, ByteField.mul_zero, ByteField.mul_zero, ByteField.mul_zero]
  rw [ByteField.mul_comm _ c, ByteField.mul_comm b c, mul_eq_iterate ha, mul_eq_iterate hc,
    mul_eq_iterate ha, mul_eq_iterate hc, ← Function.iterate_add_apply,
    ← Function.iterate_add_apply, Nat.add_comm]

/-- The inverse of an element; zero has none. -/
def inverse (a : UInt8) : UInt8 := if a = 0 then 0 else exp (255 - log a)

theorem mul_inverse {a : UInt8} (h : a ≠ 0) : mul a (inverse a) = 1 := by
  have hl := log_lt a
  rw [inverse, if_neg h, mul_eq_iterate h, exp_eq_iterate (by omega), ← Function.iterate_add_apply,
    show log a + (255 - log a) = 255 by omega, iterate_double_cycle]

/-! ### The field -/

/-- A byte as an element of the field. -/
@[ext] structure Element where
  byte : UInt8
  deriving DecidableEq

namespace Element

instance : Zero Element := ⟨⟨0⟩⟩
instance : One Element := ⟨⟨1⟩⟩
instance : Add Element := ⟨fun a b => ⟨a.byte ^^^ b.byte⟩⟩
instance : Neg Element := ⟨fun a => a⟩
instance : Mul Element := ⟨fun a b => ⟨mul a.byte b.byte⟩⟩
instance : Inv Element := ⟨fun a => ⟨inverse a.byte⟩⟩

instance : Field Element :=
  Field.ofMinimalAxioms Element
    (fun a b c => Element.ext (UInt8.xor_assoc a.byte b.byte c.byte))
    (fun _ => Element.ext UInt8.zero_xor)
    (fun _ => Element.ext UInt8.xor_self)
    (fun a b c => Element.ext (ByteField.mul_assoc a.byte b.byte c.byte))
    (fun a b => Element.ext (ByteField.mul_comm a.byte b.byte))
    (fun a => Element.ext (ByteField.one_mul a.byte))
    (fun _ h => Element.ext (mul_inverse fun h' => h (Element.ext h')))
    rfl
    (fun a b c => Element.ext (mul_xor a.byte b.byte c.byte))
    ⟨0, 1, by decide⟩

/-- Elements are their bytes. -/
def equivFin : Element ≃ Fin 256 where
  toFun a := a.byte.toFin
  invFun n := ⟨UInt8.ofFin n⟩
  left_inv _ := rfl
  right_inv _ := rfl

instance : Fintype Element := Fintype.ofEquiv (Fin 256) equivFin.symm

theorem card_element : Fintype.card Element = 256 := by
  rw [Fintype.card_congr equivFin, Fintype.card_fin]

end Element

/-- **The quotient of the tables** is the one of the field. -/
theorem div_eq {a b : UInt8} (h : b ≠ 0) :
    div a b = .ok ((⟨a⟩ : Element) / ⟨b⟩).byte := by
  have hb := log_lt b
  rw [div, if_neg h, div_eq_mul_inv]
  change _ = Except.ok (mul a (inverse b))
  by_cases ha : a = 0
  · rw [if_pos ha, ha, ByteField.zero_mul]
  · have hl := log_lt a
    rw [if_neg ha, inverse, if_neg h, mul_eq_iterate ha, exp_eq_iterate (by omega),
      exp_eq_iterate (by omega), iterate_double_mod, ← Function.iterate_add_apply,
      show log a + 255 - log b = log a + (255 - log b) by omega]

end PasswordVault.ByteField
