import PasswordVault.Proofs.Attempt
import PasswordVault.Proofs.ByteField.Laws
import Mathlib.LinearAlgebra.Lagrange

/-!
# Polynomials and interpolation at zero

`eval` is evaluation of the polynomial with the given coefficients, and the weights of
`basisAtZero` are the values at zero of the Lagrange basis for the points. So the weighted sum of
the values of a polynomial of small degree is its value at zero.

* `eval_polynomial`, `degree_polynomial_lt`, `eval_zero_polynomial`: coefficients as a polynomial;
* `basisAtZero_eq`: for distinct points the weights exist, nothing is divided by zero, and
  `weight_ne_zero`;
* `sum_weight`: **interpolation at zero**, `sum_weight_of_degree_le` for one degree more than the
  points determine.
-/

namespace PasswordVault.ByteField

open Polynomial

/-! ### Polynomials -/

/-- The polynomial with the given coefficients, the constant term first. -/
noncomputable def polynomial (coefficients : List UInt8) : Element[X] :=
  coefficients.foldr (fun c p => p * X + C ⟨c⟩) 0

theorem polynomial_cons (c : UInt8) (cs : List UInt8) :
    polynomial (c :: cs) = polynomial cs * X + C ⟨c⟩ := rfl

theorem eval_polynomial (coefficients : List UInt8) (x : UInt8) :
    (polynomial coefficients).eval ⟨x⟩ = ⟨eval coefficients x⟩ := by
  induction coefficients with
  | nil => simp [polynomial, eval]; rfl
  | cons c cs ih =>
    rw [polynomial_cons, eval_add, eval_mul, ih, eval_X, eval_C]
    rfl

/-- Evaluation as a sum over the powers of the point. -/
theorem eval_eq_sum (coefficients : List UInt8) (x : UInt8) :
    (⟨eval coefficients x⟩ : Element) =
      ∑ i ∈ Finset.range coefficients.length, ⟨coefficients.getD i 0⟩ * (⟨x⟩ : Element) ^ i := by
  induction coefficients with
  | nil => rfl
  | cons c cs ih =>
    have h : (⟨eval (c :: cs) x⟩ : Element) = ⟨eval cs x⟩ * ⟨x⟩ + ⟨c⟩ := rfl
    rw [h, ih, List.length_cons, Finset.sum_range_succ', Finset.sum_mul]
    simp [pow_succ, mul_assoc]

theorem degree_polynomial_lt (coefficients : List UInt8) :
    (polynomial coefficients).degree < coefficients.length := by
  induction coefficients with
  | nil => simp [polynomial]
  | cons c cs ih =>
    rw [polynomial_cons, List.length_cons]
    refine lt_of_le_of_lt (degree_add_le _ _) (max_lt ?_ ?_)
    · rw [degree_mul, degree_X]
      by_cases h : polynomial cs = 0
      · simp [h]
      · rw [degree_eq_natDegree h] at ih ⊢
        exact_mod_cast Nat.succ_lt_succ (by exact_mod_cast ih)
    · exact lt_of_le_of_lt degree_C_le (by exact_mod_cast Nat.succ_pos _)

theorem eval_zero_polynomial (c : UInt8) (cs : List UInt8) :
    (polynomial (c :: cs)).eval 0 = ⟨c⟩ := by
  simp [polynomial_cons]

theorem coeff_polynomial (coefficients : List UInt8) (i : ℕ) :
    (polynomial coefficients).coeff i = ⟨coefficients.getD i 0⟩ := by
  induction coefficients generalizing i with
  | nil => exact coeff_zero i
  | cons c cs ih =>
    rw [polynomial_cons, coeff_add]
    cases i with
    | zero => rw [coeff_mul_X_zero, coeff_C_zero, zero_add, List.getD_cons_zero]
    | succ i => rw [coeff_mul_X, coeff_C_succ, add_zero, ih, List.getD_cons_succ]

/-! ### Weights -/

theorem mk_product (xs : List UInt8) : (⟨product xs⟩ : Element) = (xs.map Element.mk).prod := by
  have h (init : UInt8) : (⟨xs.foldl mul init⟩ : Element) = ⟨init⟩ * (xs.map Element.mk).prod := by
    induction xs generalizing init with
    | nil => simp
    | cons x xs ih =>
      rw [List.foldl_cons, ih, List.map_cons, List.prod_cons, ← mul_assoc]; rfl
  rw [product, h]
  exact one_mul _

theorem product_ne_zero {xs : List UInt8} (h : ∀ x ∈ xs, x ≠ 0) : product xs ≠ 0 := by
  intro h0
  have hz : (⟨product xs⟩ : Element) = 0 := congrArg Element.mk h0
  rw [mk_product] at hz
  obtain ⟨x, hx, hx0⟩ := List.mem_map.mp (List.prod_eq_zero_iff.mp hz)
  exact h x hx (congrArg Element.byte hx0)

theorem basisValue_eq {x : UInt8} {others : List UInt8} (h : x ∉ others) :
    basisValue x others = .ok ((others.map Element.mk).prod /
      (others.map fun y => (⟨x⟩ - ⟨y⟩ : Element)).prod).byte := by
  have hm : (⟨product (others.map fun y => x ^^^ y)⟩ : Element) =
      (others.map fun y => (⟨x⟩ - ⟨y⟩ : Element)).prod := by
    rw [mk_product, List.map_map]; rfl
  have hne : product (others.map fun y => x ^^^ y) ≠ 0 := by
    refine product_ne_zero fun z hz => ?_
    obtain ⟨y, hy, rfl⟩ := List.mem_map.mp hz
    exact fun h0 => h (UInt8.xor_eq_zero_iff.mp h0 ▸ hy)
  rw [basisValue, div_eq hne, hm, mk_product]

def nodes (xs : List UInt8) : Finset Element := (xs.map Element.mk).toFinset

theorem mem_nodes {xs : List UInt8} {a : Element} : a ∈ nodes xs ↔ a.byte ∈ xs := by
  simp only [nodes, List.mem_toFinset, List.mem_map]
  constructor
  · rintro ⟨x, hx, rfl⟩; exact hx
  · exact fun h => ⟨a.byte, h, rfl⟩

theorem nodup_map_mk {xs : List UInt8} (h : xs.Nodup) : (xs.map Element.mk).Nodup :=
  h.map fun _ _ e => congrArg Element.byte e

theorem card_nodes {xs : List UInt8} (h : xs.Nodup) : (nodes xs).card = xs.length := by
  rw [nodes, List.toFinset_card_of_nodup (nodup_map_mk h), List.length_map]

/-- **The weight** of the point `x`: the value at zero of its basis polynomial among `xs`. -/
noncomputable def weight (xs : List UInt8) (x : UInt8) : Element :=
  (Lagrange.basis (nodes xs) id ⟨x⟩).eval 0

theorem prod_map_erase {xs : List UInt8} (h : xs.Nodup) (x : UInt8) (f : Element → Element) :
    ((xs.erase x).map fun y => f ⟨y⟩).prod = ∏ a ∈ (nodes xs).erase ⟨x⟩, f a := by
  have hn : nodes (xs.erase x) = (nodes xs).erase ⟨x⟩ := by
    ext a
    rw [mem_nodes, Finset.mem_erase, mem_nodes, h.mem_erase_iff, Ne, Ne, Element.ext_iff]
  rw [← hn, nodes, List.prod_toFinset _ (nodup_map_mk (h.erase x)), List.map_map]
  rfl

theorem weight_eq_prod (xs : List UInt8) (x : UInt8) :
    weight xs x = ∏ a ∈ (nodes xs).erase ⟨x⟩, (⟨x⟩ - a)⁻¹ * a := by
  simp only [weight, Lagrange.basis, eval_prod, Lagrange.basisDivisor, id, eval_mul, eval_C,
    eval_sub, eval_X, zero_sub]
  rfl

/-- **No weight is zero**, if no point is. -/
theorem weight_ne_zero {xs : List UInt8} (h : 0 ∉ xs) (x : UInt8) : weight xs x ≠ 0 := by
  rw [weight_eq_prod, Finset.prod_ne_zero_iff]
  intro a ha
  obtain ⟨hx, hm⟩ := Finset.mem_erase.mp ha
  have h0 : a ≠ 0 := by
    rintro rfl
    exact h (mem_nodes.mp hm)
  exact mul_ne_zero (inv_ne_zero (sub_ne_zero.mpr hx.symm)) h0

theorem basisValue_erase {xs : List UInt8} (h : xs.Nodup) (x : UInt8) :
    basisValue x (xs.erase x) = .ok (weight xs x).byte := by
  have hx : x ∉ xs.erase x := fun hx => (h.mem_erase_iff.mp hx).1 rfl
  rw [basisValue_eq hx, weight_eq_prod, Finset.prod_mul_distrib, Finset.prod_inv_distrib, mul_comm,
    ← div_eq_mul_inv, ← prod_map_erase h x fun a => a, ← prod_map_erase h x fun a => ⟨x⟩ - a]

/-- **The weights exist**: for distinct points nothing is divided by zero. -/
theorem basisAtZero_eq {xs : List UInt8} (h : xs.Nodup) :
    basisAtZero xs = .ok (xs.map fun x => (weight xs x).byte) := by
  have hm (g : UInt8 → UInt8) : xs.map g = xs.zipIdx.map fun p => g p.1 := by
    conv_lhs => rw [← List.zipIdx_map_fst 0 xs, List.map_map]
    rfl
  rw [basisAtZero, hm]
  refine Except.mapM_eq_ok_iff.mpr (List.forall₂_map_right_iff.mpr (List.forall₂_same.mpr ?_))
  rintro ⟨x, i⟩ hx
  obtain ⟨hi, rfl⟩ := List.getElem?_eq_some_iff.mp (List.mk_mem_zipIdx_iff_getElem?.mp hx)
  change basisValue xs[i] (xs.eraseIdx i) = _
  rw [← h.erase_getElem i hi]
  exact basisValue_erase h xs[i]

/-- **Interpolation at zero**: the weighted sum of the values of a polynomial of degree below the
number of points. -/
theorem sum_weight {xs : List UInt8} (h : xs.Nodup) {p : Element[X]} (hp : p.degree < xs.length) :
    (xs.map fun x => p.eval ⟨x⟩ * weight xs x).sum = p.eval 0 := by
  have hi : p = Lagrange.interpolate (nodes xs) id fun a => p.eval a :=
    Lagrange.eq_interpolate (Set.injOn_id _) (by rwa [card_nodes h])
  have hs : (xs.map fun x => p.eval ⟨x⟩ * weight xs x).sum = ∑ a ∈ nodes xs,
      p.eval a * (Lagrange.basis (nodes xs) id a).eval 0 := by
    rw [nodes, List.sum_toFinset _ (nodup_map_mk h), List.map_map]
    rfl
  conv_rhs => rw [hi]
  rw [hs, Lagrange.interpolate_apply, eval_finsetSum]
  refine Finset.sum_congr rfl fun a _ => ?_
  rw [eval_mul, eval_C]

theorem eval_zero_nodal {xs : List UInt8} (h : xs.Nodup) :
    (Lagrange.nodal (nodes xs) id).eval 0 = (⟨product xs⟩ : Element) := by
  have hneg (a : Element) : 0 - a = a := zero_sub a
  simp only [Lagrange.eval_nodal, id, hneg]
  rw [nodes, List.prod_toFinset _ (nodup_map_mk h), mk_product, List.map_id']

/-- **Interpolation at zero, with a point too few**: what the highest coefficient adds. -/
theorem sum_weight_of_degree_le {xs : List UInt8} (h : xs.Nodup) {p : Element[X]}
    (hp : p.degree ≤ xs.length) : (xs.map fun x => p.eval ⟨x⟩ * weight xs x).sum =
      p.eval 0 + p.coeff xs.length * ⟨product xs⟩ := by
  -- A multiple of the polynomial that vanishes at the points takes the highest coefficient away.
  let q := p - C (p.coeff xs.length) * Lagrange.nodal (nodes xs) id
  have hn : (Lagrange.nodal (nodes xs) id).natDegree = xs.length := by
    rw [Lagrange.natDegree_nodal, card_nodes h]
  have hq : q.degree < xs.length := by
    rw [degree_lt_iff_coeff_zero]
    intro m hm
    rw [coeff_sub, coeff_C_mul]
    rcases hm.eq_or_lt with rfl | hlt
    · have h1 : (Lagrange.nodal (nodes xs) (id : Element → Element)).coeff xs.length = 1 := by
        rw [← hn]
        exact Lagrange.nodal_monic
      rw [h1, mul_one, sub_self]
    · have hpm : p.coeff m = 0 :=
        coeff_eq_zero_of_degree_lt (lt_of_le_of_lt hp (by exact_mod_cast hlt))
      rw [hpm, coeff_eq_zero_of_natDegree_lt (hn.trans_lt hlt), mul_zero, sub_zero]
  have he : xs.map (fun x => p.eval ⟨x⟩ * weight xs x) =
      xs.map fun x => q.eval ⟨x⟩ * weight xs x := by
    refine List.map_congr_left fun x hx => ?_
    have hz : (Lagrange.nodal (nodes xs) id).eval ⟨x⟩ = (0 : Element) :=
      Lagrange.eval_nodal_at_node (v := id) (mem_nodes.mpr hx)
    rw [eval_sub, eval_mul, hz, mul_zero, sub_zero]
  rw [he, sum_weight h hq, eval_sub, eval_mul, eval_C, eval_zero_nodal h]
  -- A byte is its own negative.
  rfl

end PasswordVault.ByteField
