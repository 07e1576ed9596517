import PasswordVault.Proofs.ByteField.Interpolation
import PasswordVault.Share.Basic
import Mathlib.Data.List.GetD

/-!
# Combining is interpolation

Shares that pass the checks of `combine` have distinct non-zero points, so the weights exist and
each byte of the result is the value at zero of the polynomial through that byte of the shares.

* `Combinable`: what the checks ask for, `checkShapes_eq_ok_iff`, `checkDistinct_eq_ok_iff`;
* `combine_interpolates`: **what combinable shares combine to**, `combine_of_degree_le` with a share
  too few.
-/

namespace PasswordVault.Share

open Polynomial ByteField

/-! ### What the checks ask for -/

/-- Shares that combine: one or more, with proper indices, none of them twice, and data of one
length. -/
structure Combinable (length : ℕ) (shares : List Share) : Prop where
  nonempty : shares ≠ []
  hasIndex : ∀ s ∈ shares, s.HasIndex
  length_data : ∀ s ∈ shares, s.data.length = length
  nodup : (shares.map index).Nodup

theorem checkShapes_eq_ok_iff {length : ℕ} {shares : List Share} :
    checkShapes length shares = .ok () ↔ ∀ s ∈ shares, s.HasIndex ∧ s.data.length = length := by
  induction shares with
  | nil => simp [checkShapes]
  | cons s rest ih =>
    rw [checkShapes, List.forall_mem_cons]
    by_cases h1 : s.HasIndex
    · by_cases h2 : s.data.length = length
      · rw [if_neg (not_not.mpr h1), if_neg (not_not.mpr h2), ih]
        exact ⟨fun h => ⟨⟨h1, h2⟩, h⟩, And.right⟩
      · rw [if_neg (not_not.mpr h1), if_pos h2]
        exact ⟨nofun, fun h => absurd h.1.2 h2⟩
    · rw [if_pos h1]
      exact ⟨nofun, fun h => absurd h.1.1 h1⟩

theorem checkDistinct_eq_ok_iff {shares : List Share} :
    checkDistinct shares = .ok () ↔ (shares.map index).Nodup :=
  Except.ite_eq_ok_iff

/-! ### Points -/

theorem toNat_point {s : Share} (h : s.HasIndex) : (s.point.toNat : ℤ) = s.index := by
  obtain ⟨h1, h2⟩ := h
  simp only [maxShares] at h2
  rw [point, UInt8.toNat_ofNat']
  omega

theorem point_ne_zero {s : Share} (h : s.HasIndex) : s.point ≠ 0 := by
  intro h0
  have hp := toNat_point h
  have h1 := h.1
  rw [h0, UInt8.toNat_zero] at hp
  omega

theorem nodup_points {length : ℕ} {shares : List Share} (h : Combinable length shares) :
    (shares.map point).Nodup := by
  refine List.Nodup.of_map (fun x => (x.toNat : ℤ)) ?_
  rw [List.map_map]
  have : shares.map ((fun x => (x.toNat : ℤ)) ∘ point) = shares.map index :=
    List.map_congr_left fun s hs => toNat_point (h.hasIndex s hs)
  rw [this]
  exact h.nodup

/-! ### The weighted sum -/

theorem getD_xor {a b : Bytes} (h : a.length = b.length) (j : ℕ) :
    (Bytes.xor a b).getD j 0 = a.getD j 0 ^^^ b.getD j 0 := by
  by_cases hj : j < a.length
  · have hb : j < b.length := h ▸ hj
    have hx : j < (Bytes.xor a b).length := by rw [Bytes.length_xor, ← h, Nat.min_self]; exact hj
    rw [List.getD_eq_getElem _ _ hj, List.getD_eq_getElem _ _ hb, List.getD_eq_getElem _ _ hx]
    simp [Bytes.xor]
  · have hx : (Bytes.xor a b).length ≤ j := by rw [Bytes.length_xor]; omega
    rw [List.getD_eq_default _ _ hx, List.getD_eq_default _ _ (by omega),
      List.getD_eq_default _ _ (by omega), UInt8.xor_self]

theorem getD_map_mul (data : Bytes) (w : UInt8) (j : ℕ) :
    (data.map fun b => mul b w).getD j 0 = mul (data.getD j 0) w := by
  have := List.getD_map (l := data) (d := 0) (n := j) fun b => mul b w
  rwa [ByteField.zero_mul] at this

theorem foldl_weighted {length : ℕ} (terms : List (Share × UInt8))
    (h : ∀ t ∈ terms, t.1.data.length = length) (init : Bytes) (hi : init.length = length) :
    let sum := terms.foldl
      (fun sum (share, weight) => Bytes.xor sum (share.data.map fun b => mul b weight)) init
    sum.length = length ∧ ∀ j, (⟨sum.getD j 0⟩ : Element) =
      ⟨init.getD j 0⟩ + (terms.map fun t => (⟨t.1.data.getD j 0⟩ * ⟨t.2⟩ : Element)).sum := by
  induction terms generalizing init with
  | nil => simp [hi]
  | cons t terms ih =>
    have ht : init.length = (t.1.data.map fun b => mul b t.2).length := by
      rw [List.length_map, h t List.mem_cons_self, hi]
    have hl : (Bytes.xor init (t.1.data.map fun b => mul b t.2)).length = length := by
      rw [Bytes.length_xor, ← ht, Nat.min_self, hi]
    obtain ⟨h1, h2⟩ := ih (fun t ht => h t (List.mem_cons_of_mem _ ht)) _ hl
    refine ⟨h1, fun j => ?_⟩
    rw [List.foldl_cons, h2 j, getD_xor ht, getD_map_mul, List.map_cons, List.sum_cons, ← add_assoc]
    rfl

theorem length_weightedSum {length : ℕ} {shares : List Share}
    (h : ∀ s ∈ shares, s.data.length = length) (weights : List UInt8) :
    (weightedSum length shares weights).length = length :=
  (foldl_weighted _ (fun _ ht => h _ (List.of_mem_zip ht).1) _ List.length_replicate).1

theorem getD_weightedSum {length : ℕ} {shares : List Share}
    (h : ∀ s ∈ shares, s.data.length = length) (w : Share → UInt8) (j : ℕ) :
    (⟨(weightedSum length shares (shares.map w)).getD j 0⟩ : Element) =
      (shares.map fun s => (⟨s.data.getD j 0⟩ * ⟨w s⟩ : Element)).sum := by
  have := (foldl_weighted (List.zip shares (shares.map w))
    (fun _ ht => h _ (List.of_mem_zip ht).1) (List.replicate length 0) List.length_replicate).2 j
  rw [weightedSum, this, ← List.map_prod_left_eq_zip, List.map_map]
  have h0 : (List.replicate length (0 : UInt8)).getD j 0 = 0 :=
    List.getElem?_getD_replicate_default_eq 0 length j
  rw [h0]
  exact zero_add _

/-! ### Combining -/

theorem combine_eq {length : ℕ} {shares : List Share} (h : Combinable length shares) :
    combine shares = .ok (weightedSum length shares
      (shares.map fun s => (weight (shares.map point) s.point).byte)) := by
  obtain ⟨first, rest, hc⟩ := List.exists_cons_of_ne_nil h.nonempty
  have hl : first.data.length = length := h.length_data _ (hc ▸ List.mem_cons_self)
  have h1 := checkShapes_eq_ok_iff.mpr fun s hs => ⟨h.hasIndex s hs, h.length_data s hs⟩
  have h2 := checkDistinct_eq_ok_iff.mpr h.nodup
  have h3 := basisAtZero_eq (nodup_points h)
  rw [List.map_map] at h3
  subst hc
  rw [combine, hl, h1]
  change (checkDistinct _ >>= _) = _
  rw [h2]
  change (basisAtZero _ >>= _) = _
  rw [h3]
  rfl

/-- **Combining as many shares as the degree of the polynomials**: the values at zero, and what the
highest coefficients add. -/
theorem combine_of_degree_le {length : ℕ} {shares : List Share} (h : Combinable length shares) :
    ∃ secret, combine shares = .ok secret ∧ secret.length = length ∧
      ∀ (j : ℕ) (p : Element[X]), p.degree ≤ shares.length →
        (∀ s ∈ shares, p.eval ⟨s.point⟩ = ⟨s.data.getD j 0⟩) → (⟨secret.getD j 0⟩ : Element) =
          p.eval 0 + p.coeff shares.length * ⟨product (shares.map point)⟩ := by
  refine ⟨_, combine_eq h, length_weightedSum h.length_data _, fun j p hp hv => ?_⟩
  have hs := sum_weight_of_degree_le (nodup_points h) (p := p) (by rwa [List.length_map])
  rw [List.length_map, List.map_map] at hs
  rw [getD_weightedSum h.length_data, ← hs]
  congr 1
  refine List.map_congr_left fun s hs => ?_
  rw [← hv s hs]
  rfl

/-- **Combining is interpolation at zero**, byte by byte. -/
theorem combine_interpolates {length : ℕ} {shares : List Share} (h : Combinable length shares) :
    ∃ secret, combine shares = .ok secret ∧ secret.length = length ∧
      ∀ (j : ℕ) (p : Element[X]), p.degree < shares.length →
        (∀ s ∈ shares, p.eval ⟨s.point⟩ = ⟨s.data.getD j 0⟩) → p.eval 0 = ⟨secret.getD j 0⟩ := by
  obtain ⟨secret, hs, hl, hi⟩ := combine_of_degree_le h
  refine ⟨secret, hs, hl, fun j p hp hv => ?_⟩
  rw [hi j p hp.le hv, coeff_eq_zero_of_degree_lt hp, zero_mul, add_zero]

end PasswordVault.Share
