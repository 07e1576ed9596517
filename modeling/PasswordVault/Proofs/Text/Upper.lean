import PasswordVault.Proofs.Text.Words

/-!
# The upper-case form is a normal form

A letter can have several capitals as its upper-case form. Capitals have no other upper-case form,
and neither a blank nor a dash is one of a letter. For the runs of letters this is checked as for
the lower-case forms, and for the letters with several capitals one by one. So a text in upper case
stays as it is when it is put into upper case again.

* `settles_upperShifts`: the table of upper-case letters;
* `isUpper_of_mem_upperChar`: the capitals of one letter;
* `isUpper_of_mem_upper`, `upper_eq_self`: **a text in upper case** has capitals only, and is its
  own upper-case form.
-/

namespace PasswordVault

namespace CaseTable

/-- What is no capital of the runs: blanks, the dash, the letters with several capitals, and what is
no character. -/
def noCapitals : List Span :=
  Text.blankSpans ++ [⟨0x2d, 0x2d⟩, ⟨0xd800, 0xdfff⟩] ++ upperStrings.map fun (c, _) => ⟨c, c⟩

theorem settles_upperShifts : Settles upperShifts noCapitals where
  surrogates := by simp [noCapitals]
  lt := by decide +kernel
  apart := by decide +kernel
  avoids := by decide +kernel

end CaseTable

namespace Text

open CaseTable

/-! ### The capitals of one letter -/

/-- The letter is its own upper-case form. -/
def IsUpper (c : Char) : Prop := upperChar c = [c]

instance (c : Char) : Decidable (IsUpper c) :=
  inferInstanceAs (Decidable (upperChar c = [c]))

theorem lookup_eq_none_of_avoids {c : ℕ} (h : ∀ p ∈ upperStrings, ¬ (p.1 ≤ c ∧ c ≤ p.1)) :
    upperStrings.lookup c = none := by
  rw [List.lookup_eq_none_iff]
  intro p hp
  have := h p hp
  simp only [bne_iff_ne]
  omega

theorem isUpper_of_not_has {c : Char} (hl : upperStrings.lookup c.toNat = none)
    (h : ∀ s ∈ upperShifts, ¬ s.Has c.toNat) : IsUpper c := by
  rw [IsUpper, upperChar, hl, shift_eq_self h, Char.ofNat_toNat]

section Form
variable {s : Shift} (hs : s ∈ upperShifts) {c : ℕ} (hc : s.Has c)
include hs hc

theorem isUpper_ofNat_form : IsUpper (Char.ofNat (s.form c)) := by
  refine isUpper_of_not_has (lookup_eq_none_of_avoids fun p hp => ?_) fun t ht => ?_
  · rw [settles_upperShifts.toNat_ofNat hs hc]
    refine settles_upperShifts.not_reserved hs hc (List.mem_append_right _ ?_)
    exact List.mem_map_of_mem hp
  · rw [settles_upperShifts.toNat_ofNat hs hc]
    exact settles_upperShifts.not_has hs hc ht

theorem isBlank_ofNat_upperForm : isBlank (Char.ofNat (s.form c)) = false := by
  rw [← Bool.not_eq_true]
  intro hb
  obtain ⟨r, hr, hspan⟩ := exists_span_of_isBlank hb
  rw [settles_upperShifts.toNat_ofNat hs hc] at hspan
  refine settles_upperShifts.not_reserved hs hc ?_ hspan
  exact List.mem_append_left _ (List.mem_append_left _ hr)

theorem ofNat_form_ne_dash : Char.ofNat (s.form c) ≠ '-' := by
  intro he
  have hdash : ⟨0x2d, 0x2d⟩ ∈ noCapitals := by simp [noCapitals]
  have hn : s.form c = 0x2d := by
    rw [← settles_upperShifts.toNat_ofNat hs hc, he]
    rfl
  have hform := settles_upperShifts.not_reserved hs hc hdash
  omega

end Form

/-- The letters with several capitals, one by one. -/
theorem isUpper_of_mem_upperStrings : ∀ p ∈ upperStrings, ∀ code ∈ p.2,
    IsUpper (Char.ofNat code) ∧ isBlank (Char.ofNat code) = false ∧ Char.ofNat code ≠ '-' := by
  decide +kernel

theorem mem_of_lookup {c : ℕ} {codes : List ℕ} (h : upperStrings.lookup c = some codes) :
    (c, codes) ∈ upperStrings := by
  obtain ⟨before, after, he, -⟩ := List.lookup_eq_some_iff.mp h
  rw [he]
  exact List.mem_append_right _ List.mem_cons_self

/-- **The capitals of a letter** are in upper case, and neither blanks nor dashes unless they are
the letter itself. -/
theorem isUpper_of_mem_upperChar {c d : Char} (h : d ∈ upperChar c) :
    IsUpper d ∧ (d = c ∨ isBlank d = false ∧ d ≠ '-') := by
  unfold upperChar at h
  split at h
  · rename_i codes hl
    obtain ⟨code, hcode, rfl⟩ := List.mem_map.mp h
    obtain ⟨hu, hd⟩ := isUpper_of_mem_upperStrings _ (mem_of_lookup hl) code hcode
    exact ⟨hu, Or.inr hd⟩
  · rename_i hl
    rw [List.mem_singleton] at h
    rcases shift_cases upperShifts c.toNat with ⟨he, hn⟩ | ⟨s, hs, hh, he⟩
    · rw [he, Char.ofNat_toNat] at h
      subst h
      exact ⟨isUpper_of_not_has hl hn, Or.inl rfl⟩
    · rw [he] at h
      subst h
      exact ⟨isUpper_ofNat_form hs hh,
        Or.inr ⟨isBlank_ofNat_upperForm hs hh, ofNat_form_ne_dash hs hh⟩⟩

/-! ### Texts in upper case -/

theorem isUpper_of_mem_upper {cs : List Char} {d : Char} (h : d ∈ upper cs) : IsUpper d := by
  obtain ⟨c, -, hd⟩ := List.mem_flatMap.mp h
  exact (isUpper_of_mem_upperChar hd).1

theorem upper_eq_self {cs : List Char} (h : ∀ c ∈ cs, IsUpper c) : upper cs = cs :=
  (List.flatMap_congr h).trans (List.flatMap_singleton' cs)

end Text

end PasswordVault
