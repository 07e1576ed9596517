import PasswordVault.Proofs.Share.Combine

/-!
# Splitting and its inverse

A split draws `threshold - 1` further coefficients for each byte of the secret, one byte after the
other, and evaluates at 1 to `total`. All the shares of one byte lie on a polynomial of degree below
the threshold, so as many shares as the threshold determine its value at zero.

* `drawPolynomials_eq`: the coefficients are consecutive slices of the tape;
* `gives_split_iff`: when a split succeeds and what it gives;
* `combine_ofPolynomials`: distinct shares of the same polynomials combine to the constant terms,
  `combine_of_le_length_succ` with a share too few.
-/

namespace PasswordVault.Share

open Polynomial ByteField

/-! ### The coefficients -/

/-- The polynomials of a secret with the coefficients that stand on the tape from a position on. -/
def polynomialsFrom (tape : Tape) (threshold : ℕ) : (start : ℕ) → Bytes → List Bytes
  | _, [] => []
  | start, byte :: rest =>
    (byte :: tape.slice start (threshold - 1)) ::
      polynomialsFrom tape threshold (start + (threshold - 1)) rest

theorem polynomialsFrom_advance (tape : Tape) (count threshold start : ℕ) (secret : Bytes) :
    polynomialsFrom (tape.advance count) threshold start secret =
      polynomialsFrom tape threshold start secret := by
  induction secret generalizing start with
  | nil => rfl
  | cons byte rest ih => rw [polynomialsFrom, ih]; rfl

theorem drawPolynomials_eq (threshold : ℕ) (secret : Bytes) (tape : Tape) :
    drawPolynomials threshold secret tape =
      (polynomialsFrom tape threshold tape.position secret,
        tape.advance (secret.length * (threshold - 1))) := by
  induction secret generalizing tape with
  | nil => simp only [List.length_nil, Nat.zero_mul, Tape.advance_zero]; rfl
  | cons byte rest ih =>
    have h := ih (tape.advance (threshold - 1))
    rw [polynomialsFrom_advance, Tape.advance_advance] at h
    have e : drawPolynomials threshold (byte :: rest) tape =
        let r := drawPolynomials threshold rest (tape.advance (threshold - 1))
        ((byte :: tape.slice tape.position (threshold - 1)) :: r.1, r.2) := rfl
    rw [e, h, List.length_cons, Nat.succ_mul, Nat.add_comm (threshold - 1)]
    rfl

theorem length_polynomialsFrom (tape : Tape) (threshold start : ℕ) (secret : Bytes) :
    (polynomialsFrom tape threshold start secret).length = secret.length := by
  induction secret generalizing start with
  | nil => rfl
  | cons byte rest ih => simp [polynomialsFrom, ih]

theorem getElem?_polynomialsFrom (tape : Tape) (threshold start : ℕ) (secret : Bytes) (i : ℕ) :
    (polynomialsFrom tape threshold start secret)[i]? = secret[i]?.map fun byte =>
      byte :: tape.slice (start + i * (threshold - 1)) (threshold - 1) := by
  induction secret generalizing start i with
  | nil => rfl
  | cons byte rest ih =>
    cases i with
    | zero => simp [polynomialsFrom]
    | succ i =>
      rw [polynomialsFrom, List.getElem?_cons_succ, List.getElem?_cons_succ, ih, Nat.succ_mul,
        Nat.add_comm (i * _), Nat.add_assoc]

theorem map_headD_polynomialsFrom (tape : Tape) (threshold start : ℕ) (secret : Bytes) :
    (polynomialsFrom tape threshold start secret).map (List.headD · 0) = secret := by
  induction secret generalizing start with
  | nil => rfl
  | cons byte rest ih => rw [polynomialsFrom, List.map_cons, ih, List.headD_cons]

theorem length_of_mem_polynomialsFrom {tape : Tape} {threshold start : ℕ} {secret p : Bytes}
    (h0 : 0 < threshold) (h : p ∈ polynomialsFrom tape threshold start secret) :
    p.length = threshold := by
  induction secret generalizing start with
  | nil => cases h
  | cons byte rest ih =>
    rcases List.mem_cons.mp h with rfl | h
    · rw [List.length_cons, Tape.length_slice]; omega
    · exact ih h

/-! ### The shares -/

theorem splittable_eq_ok_iff {secret : Bytes} {total threshold : ℤ} :
    splittable secret total threshold = .ok () ↔
      2 ≤ threshold ∧ threshold ≤ total ∧ total ≤ maxShares ∧ secret ≠ [] := by
  unfold splittable
  split_ifs with h1 h2 h3 h4
  · simp; omega
  · simp; omega
  · simp; omega
  · simp [List.isEmpty_iff.mp h4]
  · have hne : secret ≠ [] := fun h => h4 (List.isEmpty_iff.mpr h)
    exact ⟨fun _ => ⟨by omega, by omega, by omega, hne⟩, fun _ => rfl⟩

/-- The shares with the indices 1 to `total` that some polynomials give. -/
def sharesOf (polynomials : List Bytes) (total : ℕ) : List Share :=
  (List.range total).map fun i => ofPolynomials polynomials (i + 1)

/-- **When a split succeeds, and what it gives.** -/
theorem gives_split_iff {secret : Bytes} {total threshold : ℤ} {tape rest : Tape}
    {shares : List Share} : Gives (split secret total threshold) tape shares rest ↔
      (2 ≤ threshold ∧ threshold ≤ total ∧ total ≤ maxShares ∧ secret ≠ []) ∧
      shares = sharesOf (polynomialsFrom tape threshold.toNat tape.position secret) total.toNat ∧
      rest = tape.advance (secret.length * (threshold.toNat - 1)) := by
  simp only [split, gives_bind, gives_ofExcept, gives_draw, gives_pure, drawPolynomials_eq]
  rw [← splittable_eq_ok_iff]
  constructor
  · rintro ⟨_, _, ⟨h, rfl⟩, _, _, ⟨rfl, rfl⟩, rfl, rfl⟩
    exact ⟨h, rfl, rfl⟩
  · rintro ⟨h, rfl, rfl⟩
    exact ⟨(), _, ⟨h, rfl⟩, _, _, ⟨rfl, rfl⟩, rfl, rfl⟩

theorem mem_sharesOf {polynomials : List Bytes} {total : ℕ} {s : Share} :
    s ∈ sharesOf polynomials total ↔
      ∃ x, 1 ≤ x ∧ x ≤ total ∧ s = ofPolynomials polynomials x := by
  simp only [sharesOf, List.mem_map, List.mem_range]
  constructor
  · rintro ⟨i, hi, rfl⟩
    exact ⟨i + 1, by omega, by omega, rfl⟩
  · rintro ⟨x, h1, h2, rfl⟩
    refine ⟨x - 1, by omega, ?_⟩
    rw [Nat.sub_add_cancel h1]

theorem hasIndex_of_mem_sharesOf {polynomials : List Bytes} {total : ℕ} (hmax : total ≤ maxShares)
    {s : Share} (h : s ∈ sharesOf polynomials total) : s.HasIndex := by
  obtain ⟨x, h1, h2, rfl⟩ := mem_sharesOf.mp h
  exact ⟨by simp [ofPolynomials]; omega, by simp [ofPolynomials]; omega⟩

theorem map_index_sharesOf (polynomials : List Bytes) (total : ℕ) :
    (sharesOf polynomials total).map index =
      (List.range total).map fun i : ℕ => (i : ℤ) + 1 := by
  rw [sharesOf, List.map_map]
  exact List.map_congr_left fun i _ => by simp [ofPolynomials]

theorem length_data_ofPolynomials (polynomials : List Bytes) (x : ℕ) :
    (ofPolynomials polynomials x).data.length = polynomials.length := by
  simp [ofPolynomials]

/-- The shares lie on the polynomials. -/
theorem eval_of_mem_sharesOf {polynomials : List Bytes} {total : ℕ} {s : Share}
    (h : s ∈ sharesOf polynomials total) {j : ℕ} (hj : j < polynomials.length) :
    (polynomial polynomials[j]).eval ⟨s.point⟩ = ⟨s.data.getD j 0⟩ := by
  obtain ⟨x, -, -, rfl⟩ := mem_sharesOf.mp h
  have hx : (ofPolynomials polynomials x).data.getD j 0 =
      eval polynomials[j] (UInt8.ofNat x) := by
    rw [List.getD_eq_getElem _ _ (by rw [length_data_ofPolynomials]; exact hj)]
    simp [ofPolynomials]
  rw [hx, ← eval_polynomial]
  congr 1

/-! ### Combining again -/

theorem combinable_ofPolynomials {polynomials : List Bytes} {total : ℕ} (hmax : total ≤ maxShares)
    {chosen : List Share} (hc : chosen ⊆ sharesOf polynomials total) (hd : chosen.Nodup)
    (h0 : chosen ≠ []) : Combinable polynomials.length chosen := by
  have hx : ∀ s ∈ chosen, ∃ x, 1 ≤ x ∧ x ≤ total ∧ s = ofPolynomials polynomials x :=
    fun s hs => mem_sharesOf.mp (hc hs)
  refine ⟨h0, ?_, ?_, ?_⟩
  · intro s hs
    exact hasIndex_of_mem_sharesOf hmax (hc hs)
  · intro s hs
    obtain ⟨x, -, -, rfl⟩ := hx s hs
    exact length_data_ofPolynomials polynomials x
  · rw [List.nodup_map_iff_inj_on hd]
    intro s hs t ht h
    obtain ⟨x, -, -, rfl⟩ := hx s hs
    obtain ⟨y, -, -, rfl⟩ := hx t ht
    have : x = y := by simpa [ofPolynomials] using h
    rw [this]

/-- **Distinct shares, at most one too few, combine to the constant terms** up to what the highest
coefficients add. -/
theorem combine_of_le_length_succ {polynomials : List Bytes} {total : ℕ} (hmax : total ≤ maxShares)
    {chosen : List Share} (hc : chosen ⊆ sharesOf polynomials total) (hd : chosen.Nodup)
    (h0 : chosen ≠ []) (hp : ∀ p ∈ polynomials, p ≠ [] ∧ p.length ≤ chosen.length + 1) :
    combine chosen = .ok (polynomials.map fun p =>
      p.headD 0 ^^^ mul (p.getD chosen.length 0) (product (chosen.map point))) := by
  obtain ⟨secret, hs, hl, hi⟩ := combine_of_degree_le (combinable_ofPolynomials hmax hc hd h0)
  rw [hs]
  congr 1
  refine List.ext_getElem (by rw [hl, List.length_map]) fun j h1 h2 => ?_
  have hj : j < polynomials.length := hl ▸ h1
  obtain ⟨hne, hlp⟩ := hp _ (List.getElem_mem hj)
  obtain ⟨c, cs, hcs⟩ := List.exists_cons_of_ne_nil hne
  have hdegree : (polynomial polynomials[j]).degree ≤ chosen.length :=
    (degree_le_iff_coeff_zero _ _).mpr fun m hm => coeff_eq_zero_of_degree_lt
      (lt_of_lt_of_le (degree_polynomial_lt _) (by exact_mod_cast hlp.trans (by exact_mod_cast hm)))
  have hz := hi j (polynomial polynomials[j]) hdegree fun s hs => eval_of_mem_sharesOf (hc hs) hj
  rw [coeff_polynomial, hcs, eval_zero_polynomial, List.getD_eq_getElem _ _ h1] at hz
  rw [List.getElem_map, hcs, List.headD_cons]
  exact congrArg Element.byte hz

/-- **Enough distinct shares combine to the constant terms.** -/
theorem combine_ofPolynomials {polynomials : List Bytes} {total threshold : ℕ}
    (hmax : total ≤ maxShares) (h0 : 0 < threshold) (hp : ∀ p ∈ polynomials, p.length = threshold)
    {chosen : List Share} (hc : chosen ⊆ sharesOf polynomials total) (hd : chosen.Nodup)
    (hk : threshold ≤ chosen.length) :
    combine chosen = .ok (polynomials.map (List.headD · 0)) := by
  rw [combine_of_le_length_succ hmax hc hd (List.ne_nil_of_length_pos (by omega)) fun p h =>
    ⟨List.ne_nil_of_length_pos (by rw [hp p h]; exact h0), by rw [hp p h]; omega⟩]
  congr 1
  refine List.map_congr_left fun p h => ?_
  rw [List.getD_eq_default _ _ (by rw [hp p h]; exact hk), ByteField.zero_mul, UInt8.xor_zero]

/-- **Any shares, no fewer than the threshold, combine to the secret**, whatever was drawn. -/
theorem split_then_combine {secret : Bytes} {total threshold : ℕ} (tape : Tape)
    (hs : secret ≠ []) (hk : 2 ≤ threshold) (hn : threshold ≤ total) (hmax : total ≤ maxShares) :
    ∃ shares rest, Gives (split secret total threshold) tape shares rest ∧
      shares.map index = (List.range total).map (fun i : ℕ => (i : ℤ) + 1) ∧
      (∀ s ∈ shares, s.data.length = secret.length) ∧
      ∀ chosen, chosen ⊆ shares → chosen.Nodup → threshold ≤ chosen.length →
        combine chosen = .ok secret := by
  refine ⟨_, _, gives_split_iff.mpr ⟨⟨by omega, by omega, by omega, hs⟩, rfl, rfl⟩, ?_, ?_, ?_⟩
  · exact map_index_sharesOf _ _
  · intro s h
    obtain ⟨x, -, -, rfl⟩ := mem_sharesOf.mp h
    rw [length_data_ofPolynomials, length_polynomialsFrom]
  · intro chosen hc hd hl
    have h0 : 0 < threshold := by omega
    have h := combine_ofPolynomials hmax h0 (fun p => length_of_mem_polynomialsFrom h0) hc hd hl
    rwa [map_headD_polynomialsFrom] at h

/-- Three of five shares of a secret of three bytes, the last one first. -/
theorem split_then_combine_three_of_five : ∃ a b c d e rest,
    Gives (split [0, 255, 83] 5 3) ⟨fun i => UInt8.ofNat (7 * i), 0⟩ [a, b, c, d, e] rest ∧
      combine [e, a, c] = .ok [0, 255, 83] := by
  obtain ⟨shares, rest, hg, hx, -, hc⟩ := @split_then_combine [0, 255, 83] 5 3
    ⟨fun i => UInt8.ofNat (7 * i), 0⟩ (by decide) (by decide) (by decide) (by decide)
  match shares, hx with
  | [a, b, c, d, e], hx =>
    have hn : [a, b, c, d, e].Nodup := List.Nodup.of_map index (by rw [hx]; decide)
    have hd : [e, a, c].Nodup := by grind
    exact ⟨a, b, c, d, e, rest, hg, hc _ (by simp) hd (by simp)⟩

end PasswordVault.Share
