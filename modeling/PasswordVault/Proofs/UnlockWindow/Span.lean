import PasswordVault.Proofs.Number.Double
import PasswordVault.UnlockWindow

/-!
# How long a window is

The microseconds of a number of days are rounded twice: what the whole days leave is rounded to
double precision, and the sum with the whole days to an integer. The result is off by less than a
microsecond, and more days are never fewer microseconds. A span is one of fewer than a billion days
on either side of zero; with a number of double precision nothing else decides whether there is one.

* `Lasts`, `lasts_microseconds`: **the microseconds of a number of days**, `Lasts.mono` and
  `Lasts.abs_sub_le`;
* `Spans`, `exists_spans`: the same for a number of days that may be below zero;
* `count_of_span`: **what a span says about the days**;
* `span_part_eq_ok_iff`: **when there is a span** for a number of days of double precision;
* `mayUseKey_of_eq_some`: the decision as a comparison with the span.
-/

namespace PasswordVault

namespace Days

open Binary64 Timestamp

/-- How many days they are, if there is a number for that. -/
def count? : Days → Option ℚ
  | whole count => some count
  | part count => count.ratio?.map fun (num, den) => num / den

/-! ### Sizes -/

/-- **The microseconds of a number of days**: the whole days, and what they leave as the nearest
number of double precision, rounded together. -/
def Lasts (days : ℚ) (size : ℕ) : Prop :=
  ∃ (whole : ℕ) (part rest : ℚ), days = whole + part ∧ 0 ≤ part ∧ part < 1 ∧
    Nearest (part * dayLength) rest ∧ RoundsTo (whole * dayLength + rest) size

theorem dayLength_eq : (dayLength : ℚ) = 86400000000 := by
  unfold dayLength
  exact Nat.cast_ofNat

/-- A part of a day is fewer than `2 ^ 37` microseconds. -/
theorem part_mul_lt {part : ℚ} (h : part < 1) : part * dayLength < 2 ^ (37 : ℤ) := by
  rw [dayLength_eq]
  norm_num
  linarith

theorem microseconds_eq {num den a b : ℕ}
    (h : (ofRatio false (num % den * dayLength) den).ratio? = some ((a : ℤ), b)) :
    microseconds num den = roundHalfEven (num / den * dayLength * b + a) b := by
  -- Unfolded as a function: applied, the kernel would count up to the length of a day.
  generalize hf : microseconds = f
  delta microseconds at hf
  subst hf
  beta_reduce
  generalize num / den * dayLength = whole
  rw [h]
  dsimp only
  rw [Int.toNat_natCast]

theorem lasts_microseconds (num : ℕ) {den : ℕ} (hd : 0 < den) :
    Lasts (num / den) (microseconds num den) := by
  have hmul : ((num % den * dayLength : ℕ) : ℚ) / den = (num % den : ℕ) / den * dayLength := by
    push_cast
    ring
  have hlt := part_mul_lt (mod_div_lt_one num hd)
  rw [← hmul] at hlt
  obtain ⟨a, b, hratio, hb, hn⟩ := nearest_ofRatio (num % den * dayLength) hd (by decide) hlt
  have hb' : (b : ℚ) ≠ 0 := by exact_mod_cast hb.ne'
  have hr := roundsTo_roundHalfEven (num / den * dayLength * b + a) hb
  refine ⟨num / den, (num % den : ℕ) / den, a / b, div_eq_whole_add num hd, by positivity,
    mod_div_lt_one num hd, hmul ▸ hn, ?_⟩
  rw [microseconds_eq hratio]
  have hsum : ((num / den * dayLength * b + a : ℕ) : ℚ) / b =
      (num / den : ℕ) * dayLength + a / b := by
    push_cast
    rw [add_div, mul_div_cancel_right₀ _ hb']
  rwa [hsum] at hr

theorem lasts_natCast (n : ℕ) : Lasts n (n * dayLength) := by
  refine ⟨n, 0, 0, (add_zero _).symm, le_rfl, one_pos, ?_, ?_⟩
  · rw [zero_mul]
    exact nearest_zero
  · rw [add_zero]
    exact_mod_cast roundsTo_natCast (n * dayLength)

theorem nearest_dayLength : Nearest dayLength dayLength := by
  have hscaled : (dayLength : ℚ) * 2 ^ (-(-16 : ℤ)) = (dayLength * 2 ^ 16 : ℕ) := by
    push_cast
    norm_num
  refine ⟨dayLength * 2 ^ 16, -16, ⟨by decide, ?_, Or.inr ?_⟩, ?_, ?_⟩
  · rw [dayLength_eq]
    norm_num
  · rw [dayLength_eq]
    norm_num
  · rw [hscaled]
    exact roundsTo_natCast _
  · rw [← hscaled, mul_assoc, ← zpow_add₀ two_ne_zero]
    norm_num

section

variable {x y : ℚ} {m n : ℕ}

/-- **More days are never fewer microseconds.** -/
theorem Lasts.mono (hx : Lasts x m) (hy : Lasts y n) (h : x ≤ y) : m ≤ n := by
  obtain ⟨q, r, v, rfl, hr0, hr1, hv, hm⟩ := hx
  obtain ⟨q', r', v', rfl, hr0', hr1', hv', hn⟩ := hy
  have hle : q ≤ q' := by
    by_contra hlt
    have hlt : (q' : ℚ) + 1 ≤ q := by exact_mod_cast Nat.lt_of_not_le hlt
    linarith
  refine hm.mono hn ?_
  rcases hle.eq_or_lt with rfl | hlt
  · have hrest := hv.mono hv' (mul_le_mul_of_nonneg_right (by linarith) (Nat.cast_nonneg _))
    linarith
  · -- What is left of a day is at most a day, also when rounded.
    have hday : v ≤ dayLength :=
      hv.mono nearest_dayLength (mul_le_of_le_one_left (Nat.cast_nonneg _) hr1.le)
    have hsucc : (q : ℚ) + 1 ≤ q' := by exact_mod_cast hlt
    calc (q : ℚ) * dayLength + v ≤ (q + 1) * dayLength := by linarith
      _ ≤ q' * dayLength := mul_le_mul_of_nonneg_right hsucc (Nat.cast_nonneg _)
      _ ≤ q' * dayLength + v' := by linarith [hv'.nonneg]

/-- **How far rounding goes**: half a microsecond, and little more. -/
theorem Lasts.abs_sub_le (hx : Lasts x m) : |x * dayLength - m| ≤ 1 / 2 + 1 / 2 ^ 17 := by
  obtain ⟨q, r, v, rfl, hr0, hr1, hv, hm⟩ := hx
  have hrest := hv.abs_sub_le (by decide) (part_mul_lt hr1)
  have hsplit : ((q : ℚ) + r) * dayLength - m =
      (q * dayLength + v - m) + (r * dayLength - v) := by ring
  calc |((q : ℚ) + r) * dayLength - m|
      ≤ |(q : ℚ) * dayLength + v - m| + |r * dayLength - v| := hsplit ▸ abs_add_le _ _
    _ ≤ 1 / 2 + 2 ^ ((37 : ℤ) - 54) := add_le_add hm.near hrest
    _ = 1 / 2 + 1 / 2 ^ 17 := by norm_num

end

/-! ### Spans -/

/-- **The span of a number of days**, which may be below zero. -/
def Spans (days : ℚ) (span : ℤ) : Prop :=
  (0 ≤ days ∧ ∃ size, Lasts days size ∧ span = size) ∨
    days < 0 ∧ ∃ size, Lasts (-days) size ∧ span = -size

section

variable {x y : ℚ} {s t : ℤ}

/-- **More days are never a shorter span.** -/
theorem Spans.mono (hx : Spans x s) (hy : Spans y t) (h : x ≤ y) : s ≤ t := by
  rcases hx with ⟨hx, m, hm, rfl⟩ | ⟨hx, m, hm, rfl⟩
  · rcases hy with ⟨-, n, hn, rfl⟩ | ⟨hy, -⟩
    · exact_mod_cast hm.mono hn h
    · linarith
  · rcases hy with ⟨-, n, hn, rfl⟩ | ⟨hy, n, hn, rfl⟩
    · omega
    · have := hn.mono hm (neg_le_neg h)
      omega

/-- **How far off a span is**: half a microsecond, and little more. -/
theorem Spans.abs_sub_le (hx : Spans x s) : |x * dayLength - s| ≤ 1 / 2 + 1 / 2 ^ 17 := by
  rcases hx with ⟨-, m, hm, rfl⟩ | ⟨-, m, hm, rfl⟩
  · exact_mod_cast hm.abs_sub_le
  · have heq : x * dayLength - ((-m : ℤ) : ℚ) = -(-x * dayLength - m) := by
      push_cast
      ring
    rw [heq, abs_neg]
    exact hm.abs_sub_le

end

theorem spans_of_natAbs {num : ℤ} {den size : ℕ} (hd : 0 < den)
    (h : Lasts ((num.natAbs : ℕ) / den) size) :
    Spans (num / den) (if num < 0 then -size else size) := by
  have hden : (0 : ℚ) < den := by exact_mod_cast hd
  split_ifs with hneg
  · refine Or.inr ⟨div_neg_of_neg_of_pos (by exact_mod_cast hneg) hden, size, ?_, rfl⟩
    have habs : ((num.natAbs : ℕ) : ℚ) = -num := by
      rw [Nat.cast_natAbs, abs_of_neg hneg, Int.cast_neg]
    rwa [habs, neg_div] at h
  · refine Or.inl ⟨div_nonneg (by exact_mod_cast not_lt.mp hneg) hden.le, size, ?_, rfl⟩
    have habs : ((num.natAbs : ℕ) : ℚ) = num := by
      rw [Nat.cast_natAbs, abs_of_nonneg (not_lt.mp hneg)]
    rwa [habs] at h

theorem den_pos_of_ratio? {x : Binary64} {num : ℤ} {den : ℕ} (h : x.ratio? = some (num, den)) :
    0 < den := by
  cases x with
  | finite negative significand exponent =>
    obtain ⟨-, rfl⟩ := Prod.mk.inj (Option.some.inj h)
    exact (magnitude_eq significand exponent).1
  | infinite => cases h
  | notANumber => cases h

theorem span_part {x : Binary64} {num : ℤ} {den : ℕ} (h : x.ratio? = some (num, den)) :
    (part x).span = ofMicroseconds
      (if num < 0 then -(microseconds num.natAbs den : ℤ) else microseconds num.natAbs den) := by
  cases x with
  | finite => simp only [span, h]
  | infinite => cases h
  | notANumber => cases h

/-- **A number of days has its microseconds**, and they are a span if there are not too many. -/
theorem exists_spans {w : Days} {days : ℚ} (h : w.count? = some days) :
    ∃ s, Spans days s ∧ w.span = ofMicroseconds s := by
  cases w with
  | whole n =>
    obtain rfl : (n : ℚ) = days := Option.some.inj h
    have hlasts : Lasts ((n.natAbs : ℕ) / (1 : ℕ)) (n.natAbs * dayLength) := by
      rw [Nat.cast_one, div_one]
      exact lasts_natCast n.natAbs
    have hs := spans_of_natAbs one_pos hlasts
    rw [Nat.cast_one, div_one] at hs
    refine ⟨_, hs, congrArg ofMicroseconds ?_⟩
    split_ifs with hneg
    · rw [Nat.cast_mul, Int.ofNat_natAbs_of_nonpos hneg.le, neg_mul, neg_neg]
    · rw [Nat.cast_mul, Int.natAbs_of_nonneg (not_lt.mp hneg)]
  | part x =>
    obtain ⟨⟨num, den⟩, hratio, rfl⟩ := Option.map_eq_some_iff.mp h
    have hd := den_pos_of_ratio? hratio
    exact ⟨_, spans_of_natAbs hd (lasts_microseconds num.natAbs hd), span_part hratio⟩

/-! ### The range of spans -/

/-- The microseconds are fewer than those of a billion days, on either side of zero. -/
def InRange (span : ℤ) : Prop :=
  -(greatest * dayLength) ≤ span ∧ span < (greatest + 1) * dayLength

instance (span : ℤ) : Decidable (InRange span) :=
  inferInstanceAs (Decidable (_ ∧ _))

theorem ofMicroseconds_eq (n : ℤ) :
    ofMicroseconds n = if InRange n then .ok n else .error .windowTooLong := by
  have hiff : (-greatest ≤ n / (dayLength : ℤ) ∧ n / (dayLength : ℤ) ≤ greatest) ↔ InRange n := by
    unfold InRange greatest dayLength
    omega
  simp only [ofMicroseconds, Int.fdiv_eq_ediv_of_nonneg n (Int.natCast_nonneg dayLength), hiff]

theorem ofMicroseconds_eq_ok_iff {n s : ℤ} : ofMicroseconds n = .ok s ↔ InRange n ∧ n = s := by
  rw [ofMicroseconds_eq]
  split_ifs with h <;> simp [h]

theorem eq_windowTooLong_of_ofMicroseconds {n : ℤ} {e : Error}
    (h : ofMicroseconds n = .error e) : e = .windowTooLong := by
  rw [ofMicroseconds_eq] at h
  split_ifs at h
  exact (Except.error.inj h).symm

/-- **What a span says about the days**: there is a number for them, it is that long, and not too
long. -/
theorem count_of_span {w : Days} {s : ℤ} (h : w.span = .ok s) :
    ∃ days, w.count? = some days ∧ Spans days s ∧ InRange s := by
  obtain ⟨days, hdays⟩ : ∃ days, w.count? = some days := by
    cases w with
    | whole n => exact ⟨n, rfl⟩
    | part x =>
      cases x with
      | finite => exact ⟨_, rfl⟩
      | infinite => cases h
      | notANumber => cases h
  obtain ⟨t, ht, hspan⟩ := exists_spans hdays
  obtain ⟨hrange, rfl⟩ := ofMicroseconds_eq_ok_iff.mp (hspan ▸ h)
  exact ⟨days, hdays, ht, hrange⟩

/-- **A longer window has no shorter span.** -/
theorem span_mono {w longer : Days} {x y : ℚ} {s t : ℤ} (hx : w.count? = some x)
    (hy : longer.count? = some y) (hs : w.span = .ok s) (ht : longer.span = .ok t) (h : x ≤ y) :
    s ≤ t := by
  obtain ⟨_, hx', hspan, -⟩ := count_of_span hs
  obtain ⟨_, hy', hspan', -⟩ := count_of_span ht
  cases hx.symm.trans hx'
  cases hy.symm.trans hy'
  exact hspan.mono hspan' h

/-- A number of double precision below a billion is below it by at least `2 ^ -23`. -/
theorem le_of_isDouble {significand : ℕ} {exponent : ℤ} (hs : significand < 2 ^ 53)
    (h : (significand : ℚ) * 2 ^ exponent < 10 ^ 9) :
    (significand : ℚ) * 2 ^ exponent ≤ 10 ^ 9 - 1 / 2 ^ 23 := by
  have hs' : (significand : ℚ) ≤ 2 ^ 53 := by exact_mod_cast hs.le
  rcases le_or_gt (-23) exponent with he | he
  · -- All multiples of the unit below the billion, which is one, are one unit below it.
    obtain ⟨k, rfl⟩ := Int.le.dest he
    have heq : (significand : ℚ) * 2 ^ (-23 + (k : ℤ)) = (significand * 2 ^ k : ℕ) / 2 ^ 23 := by
      rw [zpow_add₀ two_ne_zero, zpow_natCast]
      push_cast
      norm_num
      ring
    rw [heq] at h ⊢
    rw [div_lt_iff₀ (by norm_num)] at h
    have hlt : significand * 2 ^ k + 1 ≤ 10 ^ 9 * 2 ^ 23 := by exact_mod_cast h
    rw [div_le_iff₀ (by norm_num)]
    have hle : ((significand * 2 ^ k : ℕ) : ℚ) + 1 ≤ 10 ^ 9 * 2 ^ 23 := by exact_mod_cast hlt
    linarith
  · calc (significand : ℚ) * 2 ^ exponent ≤ 2 ^ 53 * 2 ^ (-24 : ℤ) :=
          mul_le_mul hs' (zpow_le_zpow_right₀ one_le_two (by omega)) (by positivity) (by positivity)
      _ ≤ 10 ^ 9 - 1 / 2 ^ 23 := by norm_num

/-- For a number above zero there is only one reason why there is no span. -/
theorem eq_windowTooLong_of_span {x : Binary64} (hp : x.isPositive = true) {e : Error}
    (h : (part x).span = .error e) : e = .windowTooLong := by
  cases x with
  | finite =>
    obtain ⟨s, -, hs⟩ := exists_spans (w := part (.finite _ _ _)) rfl
    exact eq_windowTooLong_of_ofMicroseconds (hs ▸ h)
  | infinite => exact (Except.error.inj h).symm
  | notANumber => cases hp

theorem count?_finite (significand : ℕ) (exponent : ℤ) :
    (part (.finite false significand exponent)).count? =
      some ((significand : ℚ) * 2 ^ exponent) := by
  rw [← (magnitude_eq significand exponent).2]
  rfl

/-- The number of days of a number above zero. -/
theorem exists_count_of_isPositive {x : Binary64} {days : ℚ} (hp : x.isPositive = true)
    (h : (part x).count? = some days) : ∃ (significand : ℕ) (exponent : ℤ),
      x = .finite false significand exponent ∧ days = significand * 2 ^ exponent := by
  cases x with
  | finite negative significand exponent =>
    cases negative with
    | false =>
      exact ⟨significand, exponent, rfl, Option.some.inj (h ▸ count?_finite significand exponent)⟩
    | true => cases hp
  | infinite => cases h
  | notANumber => cases h

/-- **When there is a span** for a number of double precision above zero: it is below a billion
days. -/
theorem span_part_eq_ok_iff {x : Binary64} (hd : x.IsDouble) (hp : x.isPositive = true) :
    (∃ s, (part x).span = .ok s) ↔ ∃ days, (part x).count? = some days ∧ days < 10 ^ 9 := by
  constructor
  · rintro ⟨s, hs⟩
    obtain ⟨days, hdays, hspan, -, hlt⟩ := count_of_span hs
    refine ⟨days, hdays, ?_⟩
    by_contra hge
    have hbillion : Spans (10 ^ 9 : ℕ) (10 ^ 9 * dayLength : ℕ) :=
      Or.inl ⟨Nat.cast_nonneg _, _, lasts_natCast (10 ^ 9), rfl⟩
    have hle := hbillion.mono hspan (by exact_mod_cast not_lt.mp hge)
    unfold greatest dayLength at *
    omega
  · rintro ⟨days, hdays, hlt⟩
    obtain ⟨significand, exponent, rfl, rfl⟩ := exists_count_of_isPositive hp hdays
    obtain ⟨s, hspan, hs⟩ := exists_spans hdays
    refine ⟨s, hs.trans (ofMicroseconds_eq_ok_iff.mpr ⟨?_, rfl⟩)⟩
    have hle := le_of_isDouble hd.1 hlt
    have hnonneg : (0 : ℚ) ≤ significand * 2 ^ exponent := by positivity
    obtain ⟨hlow, hhigh⟩ := abs_le.mp hspan.abs_sub_le
    rw [dayLength_eq] at hlow hhigh
    have h1 : (-1 : ℚ) < s := by linarith
    have h2 : (s : ℚ) < 10 ^ 9 * 86400000000 := by linarith
    have h1 : -1 < s := by exact_mod_cast h1
    have h2 : s < 10 ^ 9 * 86400000000 := by exact_mod_cast h2
    unfold InRange greatest dayLength
    omega

end Days

/-! ### The decision -/

section

variable {last : LastTyped} (now : Instant) (window : Days)

theorem mayUseKey_of_eq_none (h : last.instant? = none) :
    mayUseKey now last window = .ok false := by
  unfold mayUseKey
  rw [h]

theorem mayUseKey_of_eq_some {typed : Instant} (h : last.instant? = some typed) :
    mayUseKey now last window = (fun span => decide (now - typed ≤ span)) <$> window.span := by
  unfold mayUseKey
  rw [h]
  exact bind_pure_comp _ _

end

end PasswordVault
