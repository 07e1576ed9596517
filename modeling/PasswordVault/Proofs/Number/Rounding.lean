import PasswordVault.Number.Binary64
import Mathlib.Algebra.Order.Field.Power
import Mathlib.Tactic.Linarith
import Mathlib.Tactic.Positivity
import Mathlib.Tactic.Ring

/-!
# Rounding to double precision

A fraction is rounded twice over: its exponent is chosen so that the significand has 53 bits, or
fewer if no smaller exponent is left, and the fraction scaled by it is rounded to an integer. Both
respect the order, for an exponent that goes up takes the significand from its greatest value to a
normal one, which is no smaller a number.

* `RoundsTo`: the integer nearest to a number, with `roundsTo_roundHalfEven` and `RoundsTo.mono`;
* `Fits`: the exponent for a number, `fits_exponentOf`;
* `Nearest`: **the number of double precision nearest to a number**, `nearest_ofRatio`;
* `Nearest.mono`, `Nearest.abs_sub_le`: rounding keeps the order, and how far it goes.
-/

namespace PasswordVault.Binary64

/-! ### Rounding to integers -/

/-- **The integer is the nearest** to a number, and an even one if two are. -/
structure RoundsTo (x : ℚ) (n : ℕ) : Prop where
  near : |x - n| ≤ 1 / 2
  even : |x - n| = 1 / 2 → n % 2 = 0

/-- A fraction is its whole part and what is left. -/
theorem div_eq_whole_add (num : ℕ) {den : ℕ} (hd : 0 < den) :
    (num : ℚ) / den = (num / den : ℕ) + (num % den : ℕ) / den := by
  have hden : (den : ℚ) ≠ 0 := by exact_mod_cast hd.ne'
  rw [div_eq_iff hden, add_mul, div_mul_cancel₀ _ hden, mul_comm]
  exact_mod_cast (Nat.div_add_mod num den).symm

theorem mod_div_lt_one (num : ℕ) {den : ℕ} (hd : 0 < den) :
    ((num % den : ℕ) : ℚ) / den < 1 := by
  rw [div_lt_one (by exact_mod_cast hd)]
  exact_mod_cast Nat.mod_lt num hd

theorem roundsTo_roundHalfEven (num : ℕ) {den : ℕ} (hd : 0 < den) :
    RoundsTo (num / den) (roundHalfEven num den) := by
  have hden : (0 : ℚ) < den := by exact_mod_cast hd
  have hr0 : (0 : ℚ) ≤ (num % den : ℕ) / den := by positivity
  have hlt := mod_div_lt_one num hd
  have hlow : 2 * (num % den) < den ↔ ((num % den : ℕ) : ℚ) / den < 1 / 2 := by
    rw [div_lt_div_iff₀ hden two_pos]
    norm_cast
    omega
  have hhigh : 2 * (num % den) > den ↔ 1 / 2 < ((num % den : ℕ) : ℚ) / den := by
    rw [div_lt_div_iff₀ two_pos hden]
    norm_cast
    omega
  simp only [roundHalfEven, div_eq_whole_add num hd, hlow, hhigh]
  generalize ((num % den : ℕ) : ℚ) / den = r at *
  generalize num / den = q
  split_ifs with h1 h2 h3
  · have he : |(q : ℚ) + r - q| = r := by rw [add_sub_cancel_left, abs_of_nonneg hr0]
    exact ⟨by rw [he]; exact h1.le, fun h => absurd (he.symm.trans h) h1.ne⟩
  · have he : |(q : ℚ) + r - (q + 1 : ℕ)| = 1 - r := by
      push_cast
      rw [abs_sub_comm, abs_of_nonneg] <;> linarith
    exact ⟨by rw [he]; linarith, fun h => by rw [he] at h; linarith⟩
  · have he : |(q : ℚ) + r - q| = r := by rw [add_sub_cancel_left, abs_of_nonneg hr0]
    exact ⟨by rw [he]; linarith, fun _ => h3⟩
  · have he : |(q : ℚ) + r - (q + 1 : ℕ)| = 1 - r := by
      push_cast
      rw [abs_sub_comm, abs_of_nonneg] <;> linarith
    exact ⟨by rw [he]; linarith, fun _ => by omega⟩

/-- **Rounding keeps the order.** -/
theorem RoundsTo.mono {x y : ℚ} {m n : ℕ} (hx : RoundsTo x m) (hy : RoundsTo y n) (h : x ≤ y) :
    m ≤ n := by
  by_contra hlt
  have hlt : (n : ℚ) + 1 ≤ m := by exact_mod_cast Nat.lt_of_not_le hlt
  obtain ⟨hx1, -⟩ := abs_le.mp hx.near
  obtain ⟨-, hy2⟩ := abs_le.mp hy.near
  -- The number lies halfway between the two, and both of them would be even.
  have hn : (m : ℚ) = n + 1 := by linarith
  have hme : m % 2 = 0 := hx.even (by rw [abs_of_nonpos] <;> linarith)
  have hne : n % 2 = 0 := hy.even (by rw [abs_of_nonneg] <;> linarith)
  have hn : m = n + 1 := by exact_mod_cast hn
  omega

theorem roundsTo_natCast (n : ℕ) : RoundsTo n n := by
  constructor
  · rw [sub_self]
    norm_num
  · intro h
    rw [sub_self] at h
    norm_num at h

/-! ### Scaling -/

theorem scale_pos (num : ℕ) {den : ℕ} (hd : 0 < den) (power : ℤ) :
    0 < (scale num den power).2 := by
  unfold scale
  split_ifs
  · exact hd
  · exact Nat.mul_pos hd (Nat.pow_pos two_pos)

theorem scale_eq (num den : ℕ) (power : ℤ) :
    ((scale num den power).1 : ℚ) / (scale num den power).2 = num / den * 2 ^ power := by
  unfold scale
  split_ifs with h
  · obtain ⟨n, rfl⟩ := Int.eq_ofNat_of_zero_le h
    rw [Int.toNat_natCast, zpow_natCast, Nat.pow_eq]
    push_cast
    ring
  · obtain ⟨n, hn⟩ := Int.eq_ofNat_of_zero_le (show 0 ≤ -power by omega)
    rw [hn, Int.toNat_natCast, Nat.pow_eq, show power = -(n : ℤ) by omega, zpow_neg, zpow_natCast]
    push_cast
    rw [div_mul_eq_div_div, div_eq_mul_inv _ ((2 : ℚ) ^ n)]

/-! ### The exponent -/

/-- **The exponent is the one for a number**: scaled by it, the number has 53 bits, or fewer if the
exponent is the least one. -/
structure Fits (x : ℚ) (exponent : ℤ) : Prop where
  least : leastExponent ≤ exponent
  lt : x < 2 ^ (exponent + 53)
  normal : exponent = leastExponent ∨ 2 ^ (exponent + 52) ≤ x

theorem two_zpow_sub (m n : ℕ) : (2 : ℚ) ^ ((m : ℤ) - n) = 2 ^ m / 2 ^ n := by
  rw [zpow_sub₀ two_ne_zero, zpow_natCast, zpow_natCast]

/-- The lengths of numerator and denominator give the exponent up to one. -/
theorem bounds_of_log2 {num den : ℕ} (hn : num ≠ 0) (hd : den ≠ 0) :
    (2 : ℚ) ^ ((num.log2 : ℤ) - den.log2 - 1) < num / den ∧
      (num : ℚ) / den < 2 ^ ((num.log2 : ℤ) - den.log2 + 1) := by
  have hden : (0 : ℚ) < den := by exact_mod_cast Nat.pos_of_ne_zero hd
  have h1 : (2 : ℚ) ^ num.log2 ≤ num := by exact_mod_cast Nat.log2_self_le hn
  have h2 : (num : ℚ) < 2 ^ (num.log2 + 1) := by exact_mod_cast Nat.lt_log2_self
  have h3 : (2 : ℚ) ^ den.log2 ≤ den := by exact_mod_cast Nat.log2_self_le hd
  have h4 : (den : ℚ) < 2 ^ (den.log2 + 1) := by exact_mod_cast Nat.lt_log2_self
  constructor
  · rw [show (num.log2 : ℤ) - den.log2 - 1 = num.log2 - (den.log2 + 1 : ℕ) by push_cast; ring,
      two_zpow_sub]
    calc (2 : ℚ) ^ num.log2 / 2 ^ (den.log2 + 1) < 2 ^ num.log2 / den :=
          div_lt_div_of_pos_left (by positivity) hden h4
      _ ≤ num / den := div_le_div_of_nonneg_right h1 hden.le
  · rw [show (num.log2 : ℤ) - den.log2 + 1 = (num.log2 + 1 : ℕ) - den.log2 by push_cast; ring,
      two_zpow_sub]
    calc (num : ℚ) / den < 2 ^ (num.log2 + 1) / den := div_lt_div_of_pos_right h2 hden
      _ ≤ 2 ^ (num.log2 + 1) / 2 ^ den.log2 :=
          div_le_div_of_nonneg_left (by positivity) (by positivity) h3

theorem Fits.of_max {x : ℚ} {exponent : ℤ} (hlt : x < 2 ^ (exponent + 53))
    (hle : 2 ^ (exponent + 52) ≤ x) : Fits x (max leastExponent exponent) where
  least := le_max_left _ _
  lt := hlt.trans_le (zpow_le_zpow_right₀ one_le_two (by omega))
  normal := by
    rcases le_total exponent leastExponent with h | h
    · exact Or.inl (max_eq_left h)
    · exact Or.inr (by rwa [max_eq_right h])

theorem fits_exponentOf {num den : ℕ} (hn : num ≠ 0) (hd : 0 < den) :
    Fits (num / den) (exponentOf num den) := by
  obtain ⟨hlow, hhigh⟩ := bounds_of_log2 hn hd.ne'
  unfold exponentOf
  dsimp only
  generalize hg : (num.log2 : ℤ) - den.log2 - 52 = guess
  rw [show (num.log2 : ℤ) - den.log2 - 1 = guess + 51 by omega] at hlow
  rw [show (num.log2 : ℤ) - den.log2 + 1 = guess + 53 by omega] at hhigh
  have hscale := scale_eq num den (-guess)
  have hpos := scale_pos num hd (-guess)
  have hpos' : (0 : ℚ) < (scale num den (-guess)).2 := by exact_mod_cast hpos
  -- Whether the scaled fraction has 53 bits is whether the fraction reaches the power of two.
  have hiff : (scale num den (-guess)).1 < (scale num den (-guess)).2 * Nat.pow 2 52 ↔
      (num : ℚ) / den < 2 ^ (guess + 52) := by
    have h : (scale num den (-guess)).1 < (scale num den (-guess)).2 * Nat.pow 2 52 ↔
        ((scale num den (-guess)).1 : ℚ) / (scale num den (-guess)).2 < 2 ^ (52 : ℤ) := by
      rw [div_lt_iff₀ hpos', mul_comm]
      norm_cast
    rw [h, hscale, zpow_neg, ← div_eq_mul_inv, div_lt_iff₀ (by positivity), add_comm,
      zpow_add₀ two_ne_zero]
  split_ifs with h
  · have hlt := hiff.mp h
    exact .of_max (by rwa [show guess - 1 + 53 = guess + 52 by omega])
      (by rw [show guess - 1 + 52 = guess + 51 by omega]; exact hlow.le)
  · exact .of_max hhigh (le_of_not_gt (mt hiff.mpr h))

/-- A greater number has no smaller exponent. -/
theorem Fits.mono {x y : ℚ} {e f : ℤ} (hx : Fits x e) (hy : Fits y f) (h : x ≤ y) : e ≤ f := by
  rcases hx.normal with rfl | hn
  · exact hy.least
  · have hlt := (zpow_lt_zpow_iff_right₀ one_lt_two).mp ((hn.trans h).trans_lt hy.lt)
    omega

/-- A scaled number has no more than 53 bits, up to the next power of two. -/
theorem Fits.significand_le {x : ℚ} {e : ℤ} {m : ℕ} (hf : Fits x e)
    (hr : RoundsTo (x * 2 ^ (-e)) m) : m ≤ 2 ^ 53 := by
  refine hr.mono (roundsTo_natCast _) ?_
  rw [zpow_neg, ← div_eq_mul_inv, div_le_iff₀ (by positivity)]
  have h := hf.lt.le
  rw [add_comm, zpow_add₀ two_ne_zero] at h
  exact_mod_cast h

/-- A scaled number has all 53 bits, if its exponent is not the least one. -/
theorem Fits.le_significand {x : ℚ} {e : ℤ} {m : ℕ} (hf : Fits x e)
    (hr : RoundsTo (x * 2 ^ (-e)) m) (he : leastExponent < e) : 2 ^ 52 ≤ m := by
  refine (roundsTo_natCast _).mono hr ?_
  rw [zpow_neg, ← div_eq_mul_inv, le_div_iff₀ (by positivity)]
  have h := hf.normal.resolve_left he.ne'
  rw [add_comm, zpow_add₀ two_ne_zero] at h
  exact_mod_cast h

/-! ### The nearest number -/

/-- **The number of double precision nearest to a number**, before its exponent is looked at. -/
def Nearest (x value : ℚ) : Prop :=
  ∃ (significand : ℕ) (exponent : ℤ), Fits x exponent ∧
    RoundsTo (x * 2 ^ (-exponent)) significand ∧ value = significand * 2 ^ exponent

theorem Nearest.nonneg {x value : ℚ} (h : Nearest x value) : 0 ≤ value := by
  obtain ⟨significand, exponent, -, -, rfl⟩ := h
  positivity

/-- **Rounding to double precision keeps the order.** -/
theorem Nearest.mono {x y v w : ℚ} (hx : Nearest x v) (hy : Nearest y w) (h : x ≤ y) : v ≤ w := by
  obtain ⟨m, e, hfx, hrx, rfl⟩ := hx
  obtain ⟨n, f, hfy, hry, rfl⟩ := hy
  rcases (hfx.mono hfy h).eq_or_lt with rfl | hef
  · have hmn : (m : ℚ) ≤ n := by
      exact_mod_cast hrx.mono hry (mul_le_mul_of_nonneg_right h (by positivity))
    exact mul_le_mul_of_nonneg_right hmn (by positivity)
  · -- The exponent goes up: the smaller number is at most the least normal one above.
    have hm : (m : ℚ) ≤ 2 ^ 53 := by exact_mod_cast hfx.significand_le hrx
    have hn : (2 : ℚ) ^ 52 ≤ n := by exact_mod_cast hfy.le_significand hry (hfx.least.trans_lt hef)
    calc (m : ℚ) * 2 ^ e ≤ 2 ^ 53 * 2 ^ e := mul_le_mul_of_nonneg_right hm (by positivity)
      _ = 2 ^ 52 * 2 ^ (e + 1) := by
          rw [zpow_add_one₀ two_ne_zero]
          ring
      _ ≤ 2 ^ 52 * 2 ^ f :=
          mul_le_mul_of_nonneg_left (zpow_le_zpow_right₀ one_le_two hef) (by positivity)
      _ ≤ n * 2 ^ f := mul_le_mul_of_nonneg_right hn (by positivity)

/-- **How far rounding goes**: half a unit of the last of 53 bits. -/
theorem Nearest.abs_sub_le {x v : ℚ} (h : Nearest x v) {bound : ℤ} (hb : -1021 ≤ bound)
    (hx : x < 2 ^ bound) : |x - v| ≤ 2 ^ (bound - 54) := by
  obtain ⟨m, e, hf, hr, rfl⟩ := h
  have he : e ≤ bound - 53 := by
    rcases hf.normal with rfl | hn
    · unfold leastExponent
      omega
    · have := (zpow_lt_zpow_iff_right₀ one_lt_two).mp (hn.trans_lt hx)
      omega
  have hpos : (0 : ℚ) < 2 ^ e := by positivity
  have hsplit : x - m * 2 ^ e = (x * 2 ^ (-e) - m) * 2 ^ e := by
    rw [sub_mul, mul_assoc, ← zpow_add₀ two_ne_zero, neg_add_cancel, zpow_zero, mul_one]
  rw [hsplit, abs_mul, abs_of_pos hpos]
  calc |x * 2 ^ (-e) - m| * 2 ^ e ≤ 1 / 2 * 2 ^ e := mul_le_mul_of_nonneg_right hr.near hpos.le
    _ = 2 ^ (e - 1) := by
        rw [zpow_sub_one₀ two_ne_zero]
        ring
    _ ≤ 2 ^ (bound - 54) := zpow_le_zpow_right₀ one_le_two (by omega)

/-! ### Fractions -/

/-- The size of a number as a fraction. -/
theorem magnitude_eq (significand : ℕ) (exponent : ℤ) : 0 < (magnitude significand exponent).2 ∧
    ((magnitude significand exponent).1 : ℚ) / (magnitude significand exponent).2 =
      significand * 2 ^ exponent := by
  refine ⟨scale_pos significand one_pos exponent, ?_⟩
  rw [magnitude, scale_eq significand 1 exponent, Nat.cast_one, div_one]

/-- A significand of 54 bits gives the last of them to the exponent. -/
def carry (significand : ℕ) (exponent : ℤ) : ℕ × ℤ :=
  if significand = Nat.pow 2 53 then (Nat.pow 2 52, exponent + 1) else (significand, exponent)

theorem carry_value (m : ℕ) (e : ℤ) : ((carry m e).1 : ℚ) * 2 ^ (carry m e).2 = m * 2 ^ e := by
  unfold carry
  split_ifs with h
  · rw [h, zpow_add_one₀ two_ne_zero, Nat.pow_eq, Nat.pow_eq]
    push_cast
    ring
  · rfl

theorem carry_exponent_le (m : ℕ) (e : ℤ) : (carry m e).2 ≤ e + 1 := by
  unfold carry
  split_ifs
  · exact le_rfl
  · exact Int.le_add_one le_rfl

theorem ofRatio_zero (negative : Bool) (den : ℕ) :
    ofRatio negative 0 den = .finite negative 0 leastExponent := by
  unfold ofRatio
  exact if_pos rfl

/-- The number with a significand that may have one bit too many. -/
def carried (negative : Bool) (significand : ℕ) (exponent : ℤ) : Binary64 :=
  if (carry significand exponent).2 > greatestExponent then .infinite negative
  else .finite negative (carry significand exponent).1 (carry significand exponent).2

/-- The number that a fraction is rounded to. -/
theorem ofRatio_eq (negative : Bool) {num : ℕ} (hn : num ≠ 0) (den : ℕ) :
    ofRatio negative num den =
      let exponent := exponentOf num den
      carried negative (roundHalfEven (scale num den (-exponent)).1 (scale num den (-exponent)).2)
        exponent := by
  unfold ofRatio
  rw [if_neg hn]
  extract_lets e
  -- With its value at hand the kernel would unfold the exponent, and count up to powers of two.
  clear_value e
  generalize scale num den (-e) = s
  obtain ⟨a, b⟩ := s
  dsimp only
  generalize roundHalfEven a b = m
  rfl

theorem nearest_zero : Nearest 0 0 := by
  refine ⟨0, leastExponent, ⟨le_rfl, zpow_pos two_pos _, Or.inl rfl⟩, ?_, ?_⟩
  · rw [zero_mul]
    exact roundsTo_natCast 0
  · rw [Nat.cast_zero, zero_mul]

/-- What a fraction is rounded to, if it is not too large. -/
theorem exists_ofRatio (negative : Bool) (num : ℕ) {den : ℕ} (hd : 0 < den)
    {bound : ℤ} (hb : bound ≤ 1023) (hx : (num : ℚ) / den < 2 ^ bound) : ∃ significand exponent,
      ofRatio negative num den = .finite negative significand exponent ∧
        Nearest (num / den) (significand * 2 ^ exponent) := by
  by_cases hn : num = 0
  · subst hn
    refine ⟨0, leastExponent, ofRatio_zero negative den, ?_⟩
    rw [Nat.cast_zero, zero_div, zero_mul]
    exact nearest_zero
  have hf := fits_exponentOf hn hd
  have hr := roundsTo_roundHalfEven (scale num den (-exponentOf num den)).1
    (scale_pos num hd (-exponentOf num den))
  rw [scale_eq num den] at hr
  have hle : exponentOf num den + 1 ≤ greatestExponent := by
    unfold greatestExponent
    rcases hf.normal with he | he
    · rw [he, leastExponent]
      omega
    · have := (zpow_lt_zpow_iff_right₀ one_lt_two).mp (he.trans_lt hx)
      omega
  have heq := ofRatio_eq negative hn den
  extract_lets e at heq
  exact ⟨_, _, heq.trans (if_neg (not_lt.mpr ((carry_exponent_le _ e).trans hle))), _, _, hf, hr,
    carry_value _ _⟩

/-- **What a fraction is rounded to**, as a fraction. -/
theorem nearest_ofRatio (num : ℕ) {den : ℕ} (hd : 0 < den)
    {bound : ℤ} (hb : bound ≤ 1023) (hx : (num : ℚ) / den < 2 ^ bound) : ∃ a b : ℕ,
      (ofRatio false num den).ratio? = some ((a : ℤ), b) ∧ 0 < b ∧ Nearest (num / den) (a / b) := by
  obtain ⟨significand, exponent, he, hnear⟩ := exists_ofRatio false num hd hb hx
  obtain ⟨hpos, heq⟩ := magnitude_eq significand exponent
  refine ⟨_, _, ?_, hpos, heq ▸ hnear⟩
  rw [he]
  rfl

end PasswordVault.Binary64
