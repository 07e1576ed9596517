import PasswordVault.Json.Parser
import PasswordVault.Json.Printer
import Mathlib.Data.Int.Notation
import Mathlib.Data.List.Basic
import Mathlib.Data.Nat.Notation
import Mathlib.Tactic.SplitIfs

/-!
# Texts and integers are read back

A quoted text and the decimal digits of an integer are read back from what they are written as,
whatever stands behind a text, and in front of anything that is no part of a number.

* `Closed`: what can stand behind a value;
* `textRuns_escape`, `text_quote`, `memberName_quote`: **a text is read back**;
* `number_integer`: **an integer of 64 bits is read back**.
-/

namespace PasswordVault.Json

/-- What ends an item or a member, and the blanks that may stand in front of it. -/
def closing : List Char := [',', ']', '\x7d', ' ', '\t', '\n', '\r']

/-- Nothing more, or what ends an item or a member, possibly behind blanks. -/
def Closed (rest : List Char) : Prop := ∀ c ∈ rest.head?, c ∈ closing

theorem closed_nil : Closed [] := fun _ hc => absurd hc (Option.not_mem_none _)

theorem closed_cons {c : Char} (h : c ∈ closing) (rest : List Char) : Closed (c :: rest) := by
  simpa [Closed] using h

theorem mem_closing_of_isBlank {c : Char} (h : isBlank c = true) : c ∈ closing := by
  simp only [isBlank, Bool.or_eq_true, decide_eq_true_eq] at h
  simp only [closing, List.mem_cons]
  tauto

/-- Blanks may stand in front of what ends a value. -/
theorem closed_append {blanks rest : List Char} (hb : ∀ c ∈ blanks, isBlank c = true)
    (hr : Closed rest) : Closed (blanks ++ rest) := by
  cases blanks with
  | nil => exact hr
  | cons c blanks => exact closed_cons (mem_closing_of_isBlank (hb c List.mem_cons_self)) _

/-! ### Texts -/

theorem value?_hexDigit : ∀ n < 16, Hex.value? (hexDigit n) = some n := by
  decide

theorem codeUnit?_hexDigit {n : ℕ} (h : n < 256) :
    codeUnit? '0' '0' (hexDigit (n / 16)) (hexDigit (n % 16)) = some n := by
  have h0 : Hex.value? '0' = some 0 := by decide
  have e : ((0 * 16 + 0) * 16 + n / 16) * 16 + n % 16 = n := by omega
  simp only [codeUnit?, h0, value?_hexDigit (n / 16) (by omega),
    value?_hexDigit (n % 16) (by omega), Option.bind_eq_bind, Option.bind_some, Option.pure_def, e]

theorem textRuns_unescape {e c : Char} (he : e ≠ 'u') (h : unescape? e = some c)
    (rest : List Char) : textRuns ('\\' :: e :: rest) =
      (textRuns rest).map fun (runs, rest) => (runs.cons c, rest) := by
  rw [textRuns, h, Option.map_eq_bind]
  · rfl
  · intro a b c d rest' hu
    exact absurd hu he

theorem textRuns_codeUnit {a b c d : Char} {n : ℕ} (h : codeUnit? a b c d = some n)
    (hn : n < 0xD800) (rest : List Char) : textRuns ('\\' :: 'u' :: a :: b :: c :: d :: rest) =
      (textRuns rest).map fun (runs, rest) => (runs.cons (Char.ofNat n), rest) := by
  have hu (runs : Runs) : runs.consUnit n = runs.cons (Char.ofNat n) := by
    rw [Runs.consUnit, dif_neg (by omega)]
  simp only [textRuns, h, Option.bind_eq_bind, Option.bind_some, Option.map_eq_bind, hu]
  rfl

theorem textRuns_cons {c : Char} (h1 : c ≠ '"') (h2 : c ≠ '\\') (h3 : ¬ c.toNat < 32)
    (rest : List Char) : textRuns (c :: rest) =
      (textRuns rest).map fun (runs, rest) => (runs.cons c, rest) := by
  have hn : ¬ (c.toNat < 32 ∨ c = '\\') := not_or.mpr ⟨h3, h2⟩
  rw [textRuns, if_neg hn, Option.map_eq_bind]
  · rfl
  · exact h1
  · intro a b c d rest' hc
    exact absurd hc h2
  · intro e rest' hc
    exact absurd hc h2

/-- A control character is escaped by a letter or by its number. -/
theorem escape_control : ∀ n < 32,
    (['b', 't', 'n', 'f', 'r'].any fun e => decide (escape (Char.ofNat n) = ['\\', e] ∧
      unescape? e = some (Char.ofNat n))) = true ∨
    escape (Char.ofNat n) = ['\\', 'u', '0', '0', hexDigit (n / 16), hexDigit (n % 16)] := by
  decide

/-- An escaped character is read back, whatever stands behind it. -/
theorem textRuns_escape (c : Char) (rest : List Char) :
    textRuns (escape c ++ rest) = (textRuns rest).map fun (runs, rest) => (runs.cons c, rest) := by
  by_cases h1 : c = '"'
  · subst h1
    exact textRuns_unescape (by decide) (by decide) rest
  by_cases h2 : c = '\\'
  · subst h2
    exact textRuns_unescape (by decide) (by decide) rest
  by_cases h3 : c.toNat < 32
  · have hc := escape_control c.toNat h3
    rw [Char.ofNat_toNat] at hc
    rcases hc with hc | hc
    · obtain ⟨e, he, hc⟩ := List.any_eq_true.mp hc
      obtain ⟨hc, hu⟩ := of_decide_eq_true hc
      have he : e ≠ 'u' := by
        rintro rfl
        exact absurd he (by decide)
      rw [hc]
      exact textRuns_unescape he hu rest
    · rw [hc]
      have h := textRuns_codeUnit (codeUnit?_hexDigit (n := c.toNat) (by omega)) (by omega) rest
      rwa [Char.ofNat_toNat] at h
  · have hc : escape c = [c] := by rw [escape, if_neg h1, if_neg h2, if_neg h3]
    rw [hc]
    exact textRuns_cons h1 h2 h3 rest

theorem textRuns_quote (cs rest : List Char) :
    textRuns (cs.flatMap escape ++ '"' :: rest) = some (⟨cs, []⟩, rest) := by
  induction cs with
  | nil => simp [textRuns]
  | cons c cs ih => rw [List.flatMap_cons, List.append_assoc, textRuns_escape, ih]; rfl

theorem text_quote (d : Dialect) (s : String) (rest : List Char) :
    text d (s.toList.flatMap escape ++ '"' :: rest) = some (.whole s, rest) := by
  simp [text, textRuns_quote, Runs.toText]

theorem memberName_quote (s : String) (rest : List Char) :
    memberName (s.toList.flatMap escape ++ '"' :: rest) = some (s, rest) := by
  simp [memberName, textRuns_quote]

/-! ### Integers -/

/-- Digits are read up to what is no digit. -/
theorem digits_append {ds rest : List Char} (hd : ∀ c ∈ ds, c.isDigit = true)
    (hn : ∀ c ∈ rest.head?, ¬ c.isDigit = true) : digits (ds ++ rest) = (ds, rest) := by
  rw [digits, List.takeWhile_append_of_pos hd, List.dropWhile_append_of_pos hd]
  cases rest with
  | nil => simp
  | cons c rest =>
    rw [List.takeWhile_cons_of_neg (hn c rfl), List.dropWhile_cons_of_neg (hn c rfl),
      List.append_nil]

theorem Closed.not_isDigit {rest : List Char} (h : Closed rest) :
    ∀ c ∈ rest.head?, ¬ c.isDigit = true := by
  intro c hc
  have hall : closing.all (fun c => !c.isDigit) = true := by decide
  simpa using List.all_eq_true.mp hall c (h c hc)

theorem decimal_toDigits (n : ℕ) : Text.decimal (Nat.toDigits 10 n) = n := by
  have h : Text.decimal (Nat.toDigits 10 n) = Nat.ofDigitChars 10 (Nat.toDigits 10 n) 0 := by
    simp only [Text.decimal, Nat.ofDigitChars_eq_foldl, Nat.mul_comm 10]
    rfl
  rw [h, Nat.ofDigitChars_ten_toDigits]

/-- The first digit is zero only for zero. -/
theorem head?_toDigits {n : ℕ} (h : (Nat.toDigits 10 n).head? = some '0') : n = 0 := by
  induction n using Nat.strongRecOn with
  | ind n ih =>
    rcases Nat.lt_or_ge n 10 with hn | hn
    · have hd : ∀ n < 10, (Nat.digitChar n = '0') → n = 0 := by decide
      rw [Nat.toDigits_of_lt_base hn] at h
      exact hd n hn (Option.some.inj h)
    · rw [Nat.toDigits_of_base_le (by decide) hn,
        List.head?_append_of_ne_nil (Nat.toDigits 10 (n / 10)) Nat.toDigits_ne_nil] at h
      have := ih (n / 10) (by omega) h
      omega

theorem fraction_closed {rest : List Char} (hr : Closed rest) :
    fraction rest = some ([], rest) := by
  cases rest with
  | nil => rfl
  | cons c rest =>
    rw [fraction]
    rintro _ ⟨⟩
    exact absurd (hr '.' rfl) (by decide)

theorem exponent_closed {rest : List Char} (hr : Closed rest) :
    exponent rest = some (none, rest) := by
  cases rest with
  | nil => rfl
  | cons c rest =>
    rw [exponent]
    · rintro _ ⟨⟩
      exact absurd (hr 'e' rfl) (by decide)
    · rintro _ ⟨⟩
      exact absurd (hr 'E' rfl) (by decide)

/-- The digits of an integer of 64 bits are read back, with the sign that stood before them. -/
theorem unsignedNumber_toDigits (d : Dialect) {negative : Bool} {n : ℕ} {i : ℤ}
    (hi : (if negative then -(n : ℤ) else n) = i) (h : isWordSized i = true) {rest : List Char}
    (hr : Closed rest) :
    unsignedNumber d negative (Nat.toDigits 10 n ++ rest) = some (.int i, rest) := by
  have hd : ∀ c ∈ Nat.toDigits 10 n, c.isDigit = true := fun c hc =>
    Nat.isDigit_of_mem_toDigits (by decide) (by decide) hc
  have hz : ¬ ((Nat.toDigits 10 n).isEmpty ∨
      ((Nat.toDigits 10 n).head? = some '0' ∧ (Nat.toDigits 10 n).length > 1)) := by
    rintro (he | ⟨hh, hl⟩)
    · exact Nat.toDigits_ne_nil (List.isEmpty_iff.mp he)
    · rw [head?_toDigits hh, Nat.toDigits_zero] at hl
      exact absurd hl (by decide)
  have hint : d.integer? i = some (.int i) := if_pos (Or.inr h)
  simp only [unsignedNumber, digits_append hd hr.not_isDigit, if_neg hz, fraction_closed hr,
    exponent_closed hr, Option.bind_eq_bind, Option.bind_some, List.isEmpty_nil, Option.isNone_none,
    and_self, if_true, decimal_toDigits, hi, hint]
  rfl

theorem nonFinite_digit (d : Dialect) (negative : Bool) {c : Char} (h : c.isDigit = true)
    (rest : List Char) : nonFinite d negative (c :: rest) = none := by
  rw [nonFinite]
  · rintro _ ⟨⟩
    exact absurd h (by decide)
  · rintro _ ⟨⟩
    exact absurd h (by decide)

theorem exists_toDigits_eq_cons (n : ℕ) :
    ∃ c cs, Nat.toDigits 10 n = c :: cs ∧ c.isDigit = true := by
  obtain ⟨c, cs, hc⟩ := List.exists_cons_of_ne_nil (Nat.toDigits_ne_nil (n := n) (b := 10))
  exact ⟨c, cs, hc, Nat.isDigit_of_mem_toDigits (b := 10) (n := n) (by decide) (by decide)
    (hc ▸ List.mem_cons_self)⟩

/-- An integer starts with a sign or a digit. -/
theorem exists_integer_eq_cons (n : ℤ) :
    ∃ c cs, integer n = c :: cs ∧ (c = '-' ∨ c.isDigit = true) := by
  unfold integer
  split_ifs
  · exact ⟨_, _, rfl, Or.inl rfl⟩
  · obtain ⟨c, cs, hc, hd⟩ := exists_toDigits_eq_cons n.natAbs
    exact ⟨c, cs, hc, Or.inr hd⟩

/-- **An integer of 64 bits is read back.** -/
theorem number_integer (d : Dialect) {n : ℤ} (h : isWordSized n = true) {rest : List Char}
    (hr : Closed rest) : number d (integer n ++ rest) = some (.int n, rest) := by
  obtain ⟨c, cs, hc, hdigit⟩ := exists_toDigits_eq_cons n.natAbs
  have hn (negative : Bool) : nonFinite d negative (Nat.toDigits 10 n.natAbs ++ rest) = none := by
    rw [hc]
    exact nonFinite_digit d negative hdigit _
  unfold integer
  split_ifs with hneg
  · have hi : (if true = true then -(n.natAbs : ℤ) else n.natAbs) = n := by
      rw [if_pos rfl]
      omega
    simp only [List.cons_append, number, hn, unsignedNumber_toDigits d hi h hr]
  · have hi : (if false = true then -(n.natAbs : ℤ) else n.natAbs) = n := by
      rw [if_neg (by decide)]
      omega
    rw [number]
    · simp only [hn, unsignedNumber_toDigits d hi h hr]
    · intro rest' he
      rw [hc, List.cons_append, List.cons.injEq] at he
      rw [he.1] at hdigit
      exact absurd hdigit (by decide)

end PasswordVault.Json
