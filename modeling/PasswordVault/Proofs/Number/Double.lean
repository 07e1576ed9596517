import PasswordVault.Json.Field
import PasswordVault.Proofs.Number.Rounding

/-!
# Numbers that have double precision

A finite number of double precision has a significand of at most 53 bits and an exponent within
bounds. Rounding gives such a number, and so do all the readers of numbers: they round a decimal or
an integer, unless they are given a number of double precision already.

* `IsDouble`: the numbers of double precision, `isDouble_ofRatio`: **what was rounded** is one;
* `Written.isDouble_of_number?`: what a text writes;
* `isDouble_of_asNumber`: **what was read** from a field.
-/

namespace PasswordVault

namespace Binary64

/-- **The number has double precision.** -/
def IsDouble : Binary64 → Prop
  | .finite _ significand exponent =>
    significand < 2 ^ 53 ∧ leastExponent ≤ exponent ∧ exponent ≤ greatestExponent
  | .infinite _ => True
  | .notANumber => True

theorem isDouble_zero (negative : Bool) : IsDouble (.finite negative 0 leastExponent) :=
  ⟨by decide, le_rfl, by decide⟩

theorem isDouble_carried (negative : Bool) {significand : ℕ} {exponent : ℤ}
    (hm : significand ≤ 2 ^ 53) (he : leastExponent ≤ exponent) :
    (carried negative significand exponent).IsDouble := by
  unfold carried
  split_ifs with h
  · trivial
  · refine ⟨?_, ?_, not_lt.mp h⟩
    · unfold carry
      rw [Nat.pow_eq, Nat.pow_eq]
      split_ifs with hc
      · norm_num
      · exact lt_of_le_of_ne hm hc
    · unfold carry
      split_ifs
      · exact he.trans (Int.le_add_one le_rfl)
      · exact he

/-- **What was rounded** has double precision. -/
theorem isDouble_ofRatio (negative : Bool) (num : ℕ) {den : ℕ} (hd : 0 < den) :
    (ofRatio negative num den).IsDouble := by
  by_cases hn : num = 0
  · rw [hn, ofRatio_zero]
    exact isDouble_zero negative
  · have hf := fits_exponentOf hn hd
    have hr := roundsTo_roundHalfEven (scale num den (-exponentOf num den)).1
      (scale_pos num hd (-exponentOf num den))
    rw [scale_eq num den] at hr
    have heq := ofRatio_eq negative hn den
    extract_lets e at heq
    rw [heq]
    exact isDouble_carried negative (hf.significand_le hr) hf.least

theorem scaleTen_pos (num : ℕ) {den : ℕ} (hd : 0 < den) (power : ℤ) :
    0 < (scaleTen num den power).2 := by
  unfold scaleTen
  split_ifs
  · exact hd
  · exact Nat.mul_pos hd (Nat.pow_pos (by decide))

theorem isDouble_ofScientific (negative : Bool) (digits : ℕ) (power : ℤ) :
    (ofScientific negative digits power).IsDouble := by
  unfold ofScientific
  split_ifs
  · exact isDouble_zero negative
  · trivial
  · exact isDouble_zero negative
  · exact isDouble_ofRatio negative _ (scaleTen_pos digits one_pos power)

theorem isDouble_ofInt (n : ℤ) : (ofInt n).IsDouble :=
  isDouble_ofRatio _ _ one_pos

end Binary64

open Binary64

/-! ### Texts -/

namespace Written

variable {cs : List Char} {x : Binary64}

theorem isDouble_of_unsignedNumber? {negative : Bool} (h : unsignedNumber? negative cs = some x) :
    x.IsDouble := by
  unfold unsignedNumber? at h
  extract_lets lower whole rest at h
  split_ifs at h
  · cases h
    trivial
  · cases h
    trivial
  · obtain ⟨-, h⟩ := Option.ite_none_left_eq_some.mp h
    obtain ⟨power, -, rfl⟩ := Option.map_eq_some_iff.mp h
    exact isDouble_ofScientific _ _ _

theorem isDouble_of_bareNumber? (h : bareNumber? cs = some x) : x.IsDouble := by
  unfold bareNumber? at h
  split at h
  all_goals exact isDouble_of_unsignedNumber? h

/-- **What a text writes** has double precision. -/
theorem isDouble_of_number? (h : number? cs = some x) : x.IsDouble := by
  unfold number? at h
  split at h
  · rename_i hb
    cases h
    exact isDouble_of_bareNumber? hb
  · obtain ⟨_, -, hb⟩ := Option.bind_eq_some_iff.mp h
    exact isDouble_of_bareNumber? hb

end Written

/-! ### Fields -/

theorem Json.isDouble_of_numberOf {n : ℤ} {x : Binary64} (h : numberOf n = .accepted x) :
    x.IsDouble := by
  have hn := isDouble_ofInt n
  unfold numberOf at h
  split at h
  · rename_i he
    cases h
    rwa [he] at hn
  · cases h

/-- **What was read** has double precision, if a number that is read has. -/
theorem Json.isDouble_of_asNumber {v : Json} {x : Binary64} (h : v.asNumber = .accepted x)
    (hv : ∀ y, v = .float y → y.IsDouble) : x.IsDouble := by
  unfold asNumber at h
  split at h
  · exact isDouble_of_numberOf h
  · cases h
    exact isDouble_ofInt _
  · cases h
    exact hv x rfl
  · cases h
  · split at h
    · rename_i ht
      cases h
      exact Written.isDouble_of_number? ht
    · cases h
  · cases h

end PasswordVault
