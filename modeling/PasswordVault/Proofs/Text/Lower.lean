import PasswordVault.Text.Blank
import PasswordVault.Text.Case
import Mathlib.Data.Int.Notation
import Mathlib.Data.List.Basic

/-!
# The lower-case form is a normal form

A letter in lower case is its own lower-case form, and no letter becomes a blank. Both are facts
about the table of letters, which is checked run against run: the forms of the letters of one run
are no letters of another, by their distance or because only every second one is a letter. So a text
that was trimmed and put into lower case stays as it is when that is done again.

* `shift_cases`: what the table says about a code point;
* `Settles`: a table whose forms have no other form, `settles_lowerShifts` for the lower-case one;
* `isLower_of_mem_lowerChar`: the form of one letter;
* `trimmed_lower_idem`: **trimming and lower case, done twice**, run by run.
-/

namespace PasswordVault

namespace CaseTable

/-! ### Runs of letters -/

/-- The code point is a letter of the run. -/
def Shift.Has (s : Shift) (c : ℕ) : Prop :=
  s.first ≤ c ∧ c ≤ s.last ∧ (c - s.first) % s.step = 0

/-- The other form of a letter of the run. -/
def Shift.form (s : Shift) (c : ℕ) : ℕ :=
  ((c : ℤ) + s.distance).toNat

theorem shift_cases (shifts : List Shift) (c : ℕ) :
    (shift shifts c = c ∧ ∀ s ∈ shifts, ¬ s.Has c) ∨
      ∃ s ∈ shifts, s.Has c ∧ shift shifts c = s.form c := by
  induction shifts with
  | nil => exact Or.inl ⟨rfl, nofun⟩
  | cons s rest ih =>
    by_cases h : s.Has c
    · exact Or.inr ⟨s, List.mem_cons_self, h, if_pos h⟩
    · have e : shift (s :: rest) c = shift rest c := if_neg h
      rw [e]
      rcases ih with ⟨hc, hn⟩ | ⟨t, ht, hc⟩
      · exact Or.inl ⟨hc, List.forall_mem_cons.mpr ⟨h, hn⟩⟩
      · exact Or.inr ⟨t, List.mem_cons_of_mem s ht, hc⟩

theorem shift_eq_self {shifts : List Shift} {c : ℕ} (h : ∀ s ∈ shifts, ¬ s.Has c) :
    shift shifts c = c := by
  rcases shift_cases shifts c with ⟨hc, -⟩ | ⟨s, hs, hc, -⟩
  · exact hc
  · exact absurd hc (h s hs)

/-- No form of a letter of the run lies between the two code points. -/
def Shift.avoids (s : Shift) (first last : ℕ) : Bool :=
  Nat.blt (s.form s.last) first || Nat.blt last (s.form s.first)

/-- No form of a letter of the run `s` is a letter of the run `t`. -/
def Shift.apart (s t : Shift) : Bool :=
  s.avoids t.first t.last ||
    ((s.step == 2 || s.first == s.last) && t.step == 2 && Nat.blt 0 (s.form s.first)
      && (s.form s.first + t.first) % 2 == 1)

theorem not_between_of_avoids {s : Shift} {c : ℕ} (hc : s.Has c) {first last : ℕ}
    (h : s.avoids first last = true) : ¬ (first ≤ s.form c ∧ s.form c ≤ last) := by
  obtain ⟨h1, h2, -⟩ := hc
  simp only [Shift.avoids, Bool.or_eq_true, Nat.blt_eq, Shift.form] at h
  unfold Shift.form
  omega

theorem not_has_of_apart {s t : Shift} {c : ℕ} (hc : s.Has c) (h : s.apart t = true) :
    ¬ t.Has (s.form c) := by
  rintro ⟨t1, t2, t3⟩
  rcases Bool.or_eq_true_iff.mp h with h | h
  · exact not_between_of_avoids hc h ⟨t1, t2⟩
  · obtain ⟨h1, h2, h3⟩ := hc
    simp only [Bool.and_eq_true, Bool.or_eq_true, beq_iff_eq, Nat.blt_eq] at h
    obtain ⟨⟨⟨hs, ht⟩, h0⟩, ho⟩ := h
    rw [ht] at t3
    simp only [Shift.form] at h0 ho t1 t3
    rcases hs with hs | hs
    · rw [hs] at h3
      omega
    · omega

/-! ### Tables of letters -/

/-- **The table settles its letters**: their forms are characters, none of them is a letter of the
table or lies between the reserved code points. -/
structure Settles (shifts : List Shift) (reserved : List Span) : Prop where
  surrogates : ⟨0xd800, 0xdfff⟩ ∈ reserved
  lt : ∀ s ∈ shifts, s.form s.last < 0x110000
  apart : ∀ s ∈ shifts, ∀ t ∈ shifts, s.apart t = true
  avoids : ∀ s ∈ shifts, ∀ r ∈ reserved, s.avoids r.first r.last = true

section Settles
variable {shifts : List Shift} {reserved : List Span} (h : Settles shifts reserved) {s : Shift}
  (hs : s ∈ shifts) {c : ℕ} (hc : s.Has c)
include h hs hc

/-- No letter becomes a reserved code point. -/
theorem Settles.not_reserved {first last : ℕ} (hr : ⟨first, last⟩ ∈ reserved) :
    ¬ (first ≤ s.form c ∧ s.form c ≤ last) :=
  not_between_of_avoids hc (h.avoids s hs ⟨first, last⟩ hr)

/-- The form of a letter has no other form. -/
theorem Settles.not_has {t : Shift} (ht : t ∈ shifts) : ¬ t.Has (s.form c) :=
  not_has_of_apart hc (h.apart s hs t ht)

/-- The form of a letter is a character. -/
theorem Settles.toNat_ofNat : (Char.ofNat (s.form c)).toNat = s.form c := by
  have hl := h.lt s hs
  have hm : s.form c ≤ s.form s.last := by
    unfold Shift.form
    have := hc.2.1
    omega
  have hr := h.not_reserved hs hc h.surrogates
  have hv : (s.form c).isValidChar := by
    unfold Nat.isValidChar
    omega
  rw [Char.ofNat, dif_pos hv]
  rfl

end Settles

/-! ### The table of lower-case letters -/

/-- What is no letter in lower case: blanks, the two letters with a rule of their own, and what is
no character. -/
def reserved : List Span :=
  Text.whiteSpans ++ [⟨0x1c, 0x1f⟩, ⟨0x130, 0x130⟩, ⟨0x3a3, 0x3a3⟩, ⟨0xd800, 0xdfff⟩]

theorem settles_lowerShifts : Settles lowerShifts reserved where
  surrogates := by simp [reserved]
  lt := by decide +kernel
  apart := by decide +kernel
  avoids := by decide +kernel

end CaseTable

namespace Text

open CaseTable

/-! ### The form of one letter -/

/-- The letter is its own lower-case form wherever it stands. -/
def IsLower (c : Char) : Prop := c ≠ capitalSigma ∧ lowerChar c = [c]

theorem isLower_of_not_has {c : Char} (h1 : c.toNat ≠ 0x130) (h2 : c.toNat ≠ 0x3a3)
    (h : ∀ s ∈ lowerShifts, ¬ s.Has c.toNat) : IsLower c := by
  refine ⟨fun e => h2 (e ▸ rfl), ?_⟩
  rw [lowerChar, if_neg h1, shift_eq_self h, Char.ofNat_toNat]

/-- A form from the table is in lower case and none of the reserved code points. -/
theorem isLower_ofNat_form {s : Shift} (hs : s ∈ lowerShifts) {c : ℕ} (hc : s.Has c) :
    IsLower (Char.ofNat (s.form c)) := by
  have h1 : ¬ (0x130 ≤ s.form c ∧ s.form c ≤ 0x130) :=
    settles_lowerShifts.not_reserved hs hc (by simp [reserved])
  have h2 : ¬ (0x3a3 ≤ s.form c ∧ s.form c ≤ 0x3a3) :=
    settles_lowerShifts.not_reserved hs hc (by simp [reserved])
  refine isLower_of_not_has ?_ ?_ fun t ht => ?_ <;> rw [settles_lowerShifts.toNat_ofNat hs hc]
  · omega
  · omega
  · exact settles_lowerShifts.not_has hs hc ht

theorem isBlank_ofNat_form {s : Shift} (hs : s ∈ lowerShifts) {c : ℕ} (hc : s.Has c) :
    isBlank (Char.ofNat (s.form c)) = false := by
  have hi : ¬ (0x1c ≤ s.form c ∧ s.form c ≤ 0x1f) :=
    settles_lowerShifts.not_reserved hs hc (by simp [reserved])
  rw [isBlank, isWhite, settles_lowerShifts.toNat_ofNat hs hc, Bool.or_eq_false_iff]
  constructor
  · rw [inSpans, List.any_eq_false]
    intro r hr
    have := settles_lowerShifts.not_reserved hs hc (List.mem_append_left _ hr)
    simpa using this
  · simpa using hi

/-- **The form of a letter** is in lower case, and blank only if the letter is. -/
theorem isLower_of_mem_lowerChar {c d : Char} (hc : c ≠ capitalSigma) (h : d ∈ lowerChar c) :
    IsLower d ∧ (isBlank d = true → isBlank c = true) := by
  unfold lowerChar at h
  split_ifs at h with h1
  · simp only [List.mem_cons, List.not_mem_nil, or_false] at h
    rcases h with rfl | rfl
    · exact ⟨⟨by decide, by decide +kernel⟩, fun hb => absurd hb (by decide)⟩
    · exact ⟨⟨by decide, by decide +kernel⟩, fun hb => absurd hb (by decide)⟩
  · rw [List.mem_singleton] at h
    rcases shift_cases lowerShifts c.toNat with ⟨he, hn⟩ | ⟨s, hs, hh, he⟩
    · rw [he, Char.ofNat_toNat] at h
      subst h
      refine ⟨isLower_of_not_has h1 (fun e => hc ?_) hn, id⟩
      rw [← Char.ofNat_toNat d, e]
      rfl
    · rw [he] at h
      subst h
      exact ⟨isLower_ofNat_form hs hh, fun hb => by rw [isBlank_ofNat_form hs hh] at hb; cases hb⟩

theorem isLower_lowerSigma (before after : List Char) :
    IsLower (lowerSigma before after) ∧ isBlank (lowerSigma before after) = false := by
  unfold lowerSigma
  split_ifs
  · exact ⟨⟨by decide, by decide +kernel⟩, by decide⟩
  · exact ⟨⟨by decide, by decide +kernel⟩, by decide⟩

/-! ### Trimmed texts -/

/-- There is no blank in a place, the first or the last one. -/
def Bare (place : Option Char) : Prop :=
  ∀ c ∈ place, isBlank c = false

theorem dropWhile_eq_self {cs : List Char} (h : Bare cs.head?) : cs.dropWhile isBlank = cs := by
  cases cs with
  | nil => rfl
  | cons c rest => exact List.dropWhile_cons_of_neg (by simp [h c rfl])

theorem bare_head_dropWhile (cs : List Char) : Bare (cs.dropWhile isBlank).head? := by
  intro c hc
  have h := List.head?_dropWhile_not isBlank cs
  rw [Option.mem_def.mp hc] at h
  exact h

/-- The characters without the blanks at the end have no blank there. -/
theorem bare_last_dropWhile (cs : List Char) :
    Bare (cs.reverse.dropWhile isBlank).reverse.getLast? := by
  rw [List.getLast?_reverse]
  exact bare_head_dropWhile cs.reverse

theorem bare_head_trim (cs : List Char) : Bare (trim cs).head? := by
  -- What is dropped at the end leaves the first character, unless nothing is left.
  intro c hc
  rw [trim, trimBoth, List.head?_reverse] at hc
  have hs : (cs.dropWhile isBlank).reverse.dropWhile isBlank <:+ (cs.dropWhile isBlank).reverse :=
    List.dropWhile_suffix _
  obtain ⟨ds, hds⟩ := hs
  refine bare_head_dropWhile cs c ?_
  rw [← List.getLast?_reverse, ← hds, List.getLast?_append, Option.mem_def.mp hc]
  rfl

theorem dropWhile_eq_self_of_bare {cs : List Char} (h : Bare cs.getLast?) :
    (cs.reverse.dropWhile isBlank).reverse = cs := by
  rw [dropWhile_eq_self, List.reverse_reverse]
  rw [List.head?_reverse]
  exact h

theorem trim_eq_self {cs : List Char} (h : Bare cs.head?) (hl : Bare cs.getLast?) :
    trim cs = cs := by
  rw [trim, trimBoth, dropWhile_eq_self h, dropWhile_eq_self_of_bare hl]

/-! ### The form of a text -/

/-- The form of the letter `c` between the characters before and after it. -/
def lowerBetween (before : List Char) (c : Char) (after : List Char) : List Char :=
  if c = capitalSigma then [lowerSigma before after] else lowerChar c

theorem lowerAfter_cons (before : List Char) (c : Char) (rest : List Char) :
    lowerAfter before (c :: rest) = lowerBetween before c rest ++ lowerAfter (c :: before) rest :=
  rfl

theorem lowerBetween_ne_nil (before : List Char) (c : Char) (after : List Char) :
    lowerBetween before c after ≠ [] := by
  unfold lowerBetween lowerChar
  split_ifs <;> simp

theorem isLower_of_mem_lowerBetween {before after : List Char} {c d : Char}
    (h : d ∈ lowerBetween before c after) : IsLower d ∧ (isBlank d = true → isBlank c = true) := by
  unfold lowerBetween at h
  split_ifs at h with hc
  · rw [List.mem_singleton] at h
    obtain ⟨hl, hb⟩ := isLower_lowerSigma before after
    exact ⟨h ▸ hl, fun hd => by rw [h, hb] at hd; cases hd⟩
  · exact isLower_of_mem_lowerChar hc h

theorem isLower_of_mem_lowerAfter {before cs : List Char} {d : Char}
    (h : d ∈ lowerAfter before cs) : IsLower d := by
  induction cs generalizing before with
  | nil => cases h
  | cons c rest ih =>
    rcases List.mem_append.mp (lowerAfter_cons before c rest ▸ h) with h | h
    · exact (isLower_of_mem_lowerBetween h).1
    · exact ih h

/-- Letters with forms of one letter that do not depend on their neighbours. -/
theorem lowerAfter_eq_map {f : Char → Char} {cs : List Char}
    (h : ∀ c ∈ cs, c ≠ capitalSigma ∧ lowerChar c = [f c]) (before : List Char) :
    lowerAfter before cs = cs.map f := by
  induction cs generalizing before with
  | nil => rfl
  | cons c rest ih =>
    obtain ⟨hc, hrest⟩ := List.forall_mem_cons.mp h
    rw [lowerAfter_cons, ih hrest, lowerBetween, if_neg hc.1, hc.2]
    rfl

theorem lowerAfter_eq_self {cs : List Char} (h : ∀ c ∈ cs, IsLower c) (before : List Char) :
    lowerAfter before cs = cs :=
  (lowerAfter_eq_map h before).trans (List.map_id cs)

theorem lowerAfter_eq_nil {before cs : List Char} (h : lowerAfter before cs = []) : cs = [] := by
  cases cs with
  | nil => rfl
  | cons c rest => exact absurd (List.append_eq_nil_iff.mp h).1 (lowerBetween_ne_nil before c rest)

theorem lower_idem (cs : List Char) : lower (lower cs) = lower cs :=
  lowerAfter_eq_self (fun _ => isLower_of_mem_lowerAfter) []

theorem isBlank_of_mem_lowerBetween {before after : List Char} {c d : Char}
    (hc : isBlank c = false) (hd : d ∈ lowerBetween before c after) : isBlank d = false := by
  rw [← Bool.not_eq_true] at hc ⊢
  exact fun h => hc ((isLower_of_mem_lowerBetween hd).2 h)

theorem bare_head_lower {cs : List Char} (h : Bare cs.head?) : Bare (lower cs).head? := by
  intro d hd
  cases cs with
  | nil => cases hd
  | cons c rest =>
    rw [lower, lowerAfter_cons, List.head?_append_of_ne_nil _ (lowerBetween_ne_nil [] c rest)] at hd
    exact isBlank_of_mem_lowerBetween (h c rfl) (List.mem_of_head? hd)

theorem bare_last_lowerAfter {cs : List Char} (h : Bare cs.getLast?) (before : List Char) :
    Bare (lowerAfter before cs).getLast? := by
  induction cs generalizing before with
  | nil => nofun
  | cons c rest ih =>
    intro d hd
    rw [lowerAfter_cons, List.getLast?_append] at hd
    cases rest with
    | nil => exact isBlank_of_mem_lowerBetween (h c rfl) (List.mem_of_getLast? hd)
    | cons c' rest' =>
      cases hr : (lowerAfter (c :: before) (c' :: rest')).getLast? with
      | none => cases lowerAfter_eq_nil (List.getLast?_eq_none_iff.mp hr)
      | some e =>
        rw [hr] at hd
        refine ih (fun x hx => h x ?_) (c :: before) d (hr.trans hd)
        rw [List.getLast?_cons_cons]
        exact hx

/-! ### Run by run -/

theorem trimEnd_lower (text : Text) :
    (text.trimEnd.mapRuns lower).trimEnd = text.trimEnd.mapRuns lower := by
  induction text with
  | whole s =>
    have h := bare_last_lowerAfter (bare_last_dropWhile s.toList) []
    simp only [trimEnd, mapRuns, String.toList_ofList]
    rw [lower, dropWhile_eq_self_of_bare h]
  | broken s lone rest ih => simp only [trimEnd, mapRuns, ih]

theorem trimmed_lower (text : Text) :
    (text.trimmed.mapRuns lower).trimmed = text.trimmed.mapRuns lower := by
  cases text with
  | whole s =>
    have hl : Bare (trim s.toList).getLast? := bare_last_dropWhile _
    simp only [trimmed, mapRuns, String.toList_ofList]
    rw [trim_eq_self (bare_head_lower (bare_head_trim _)) (bare_last_lowerAfter hl [])]
  | broken s lone rest =>
    have h := bare_head_lower (bare_head_dropWhile s.toList)
    simp only [trimmed, mapRuns, String.toList_ofList, trimEnd_lower]
    rw [dropWhile_eq_self h]

/-- **Trimming and lower case, done twice**, are done once. -/
theorem trimmed_lower_idem (text : Text) :
    (text.trimmed.mapRuns lower).trimmed.mapRuns lower = text.trimmed.mapRuns lower := by
  rw [trimmed_lower, mapRuns_idem lower_idem]

end Text

end PasswordVault
