import PasswordVault.Proofs.Share.Split
import Mathlib.Data.Fintype.Pi
import Mathlib.GroupTheory.Index

/-!
# Secrecy below the threshold

Fewer shares than the threshold are explained by every secret, and by each secret in the same number
of ways. For one byte of the secret the shares at some points are an affine map of the further
coefficients; its linear part `shift` is surjective for distinct non-zero points, no more of them
than coefficients, so all its fibres have one size. The bytes of the secret have coefficients of
their own, so the numbers multiply.

* `shift_surjective`, `card_shift_fiber`: one byte of the secret;
* `explains_iff`: what a view says about the coefficients, byte by byte;
* `card_explanations`: **the number of coefficient streams that explain a view**.
-/

namespace PasswordVault.Share

open Polynomial ByteField

/-! ### One byte of the secret -/

/-- What the further coefficients add to the constant term at some points. -/
def shift (points : Finset Element) (m : ℕ) : (Fin m → Element) →+ (points → Element) where
  toFun c x := ∑ j, c j * (x : Element) ^ (j.val + 1)
  map_zero' := by ext; simp
  map_add' c d := by ext1 x; simp [add_mul, Finset.sum_add_distrib]

theorem shift_surjective {points : Finset Element} {m : ℕ} (h0 : 0 ∉ points)
    (hm : points.card ≤ m) : Function.Surjective (shift points m) := by
  intro z
  -- The values are those of `X * q`, where `q` interpolates the values divided by the points.
  let r : Element → Element := fun a => if h : a ∈ points then z ⟨a, h⟩ / a else 0
  let q := Lagrange.interpolate points id r
  have hq : q.degree < m :=
    lt_of_lt_of_le (Lagrange.degree_interpolate_lt r (Set.injOn_id _)) (by exact_mod_cast hm)
  refine ⟨fun j => q.coeff j, ?_⟩
  ext1 x
  have hx : (x : Element) ≠ 0 := fun h => h0 (h ▸ x.2)
  have he : q.eval (x : Element) = z x / x := by
    have := Lagrange.eval_interpolate_at_node r (Set.injOn_id (points : Set Element)) x.2
    rw [id] at this
    rw [this]
    exact dif_pos x.2
  calc ∑ j : Fin m, q.coeff j * (x : Element) ^ (j.val + 1)
      = (∑ j : Fin m, q.coeff j * (x : Element) ^ j.val) * x := by
        rw [Finset.sum_mul]
        exact Finset.sum_congr rfl fun j _ => by rw [pow_succ, mul_assoc]
    _ = q.eval (x : Element) * x := by
        rw [Polynomial.eval_eq_sum, ← sum_fin (fun i a => a * (x : Element) ^ i) (by simp) hq]
    _ = z x := by rw [he, div_mul_cancel₀ _ hx]

theorem card_shift_fiber {points : Finset Element} {m : ℕ} (h0 : 0 ∉ points)
    (hm : points.card ≤ m) (y : points → Element) :
    (Finset.univ.filter fun c => shift points m c = y).card = 256 ^ (m - points.card) := by
  have hr (z : points → Element) : z ∈ Set.range (shift points m) := shift_surjective h0 hm z
  have hsum := Finset.card_eq_sum_card_fiberwise (f := shift points m) (s := Finset.univ)
    (t := Finset.univ) fun _ _ => Finset.mem_coe.mpr (Finset.mem_univ _)
  have hall (z : points → Element) : (Finset.univ.filter fun c => shift points m c = z).card =
      (Finset.univ.filter fun c => shift points m c = y).card :=
    AddMonoidHom.card_fiber_eq_of_mem_range _ (hr z) (hr y)
  simp only [hall, Finset.sum_const, Finset.card_univ, Fintype.card_fun, Element.card_element,
    Fintype.card_fin, Fintype.card_coe, smul_eq_mul] at hsum
  refine Nat.eq_of_mul_eq_mul_left (pow_pos (by norm_num : 0 < 256) points.card) ?_
  rw [← hsum, ← pow_add, Nat.add_sub_cancel' hm]

/-! ### Streams of coefficients -/

/-- The tape that starts with the given bytes. -/
def tapeOf {n : ℕ} (stream : Fin n → UInt8) : Tape :=
  ⟨fun i => if h : i < n then stream ⟨i, h⟩ else 0, 0⟩

/-- **The stream explains the view**: splitting the secret with these coefficients, and no others,
gives the shares with the viewed data at the viewed indices. -/
def Explains (secret : Bytes) (total threshold : ℕ) (indices : Finset ℕ) (data : ℕ → Bytes)
    (stream : Fin (secret.length * (threshold - 1)) → UInt8) : Prop :=
  ∃ shares rest, Gives (split secret total threshold) (tapeOf stream) shares rest ∧
    rest.position = secret.length * (threshold - 1) ∧ ∀ x ∈ indices, ⟨x, data x⟩ ∈ shares

/-- A stream as the further coefficients of each byte. -/
def coefficients (length m : ℕ) :
    (Fin (length * m) → UInt8) ≃ (Fin length → Fin m → Element) :=
  (finProdFinEquiv.symm.arrowCongr ⟨Element.mk, Element.byte, fun _ => rfl, fun _ => rfl⟩).trans
    (Equiv.curry (Fin length) (Fin m) Element)

theorem byte_coefficients {length m : ℕ} (stream : Fin (length * m) → UInt8) (i : Fin length)
    (j : Fin m) : (tapeOf stream).byte (i * m + j) = (coefficients length m stream i j).byte := by
  have e : i.val * m + j.val = (finProdFinEquiv (i, j)).val := by
    rw [finProdFinEquiv_apply_val, Nat.add_comm, Nat.mul_comm m]
  change (if h : i.val * m + j.val < length * m then stream ⟨_, h⟩ else 0) = _
  simp only [e, Fin.is_lt, dif_pos]
  rfl

/-- The points of some indices. -/
def pointsOf (indices : Finset ℕ) : Finset Element :=
  indices.image fun x => ⟨UInt8.ofNat x⟩

section View
variable {total : ℕ} {indices : Finset ℕ} (hmax : total ≤ maxShares)
  (hi : ∀ x ∈ indices, 1 ≤ x ∧ x ≤ total)
include hmax hi

theorem toNat_ofNat {x : ℕ} (hx : x ∈ indices) : (UInt8.ofNat x).toNat = x := by
  have := hi x hx
  simp only [maxShares] at hmax
  rw [UInt8.toNat_ofNat']; omega

theorem card_pointsOf : (pointsOf indices).card = indices.card := by
  refine Finset.card_image_of_injOn fun x hx y hy h => ?_
  have := congrArg (fun a : Element => a.byte.toNat) h
  simpa only [toNat_ofNat hmax hi hx, toNat_ofNat hmax hi hy] using this

theorem zero_notMem_pointsOf : 0 ∉ pointsOf indices := by
  intro h
  obtain ⟨x, hx, h0⟩ := Finset.mem_image.mp h
  have := congrArg (fun a : Element => a.byte.toNat) h0
  simp only [toNat_ofNat hmax hi hx] at this
  have h1 := (hi x hx).1
  rw [this] at h1
  exact absurd h1 (by decide)

end View

/-! ### The view, byte by byte -/

/-- What the further coefficients of a byte have to add for the viewed data. -/
def residue (secret : Bytes) (indices : Finset ℕ) (data : ℕ → Bytes) (i : ℕ) :
    pointsOf indices → Element :=
  fun a => ⟨(data a.val.byte.toNat).getD i 0⟩ - ⟨secret.getD i 0⟩

/-- The shares of one byte: its value plus what its further coefficients add. -/
theorem getD_ofPolynomials {secret : Bytes} {threshold : ℕ}
    (stream : Fin (secret.length * (threshold - 1)) → UInt8) (i : Fin secret.length) (x : ℕ) :
    (⟨(ofPolynomials (polynomialsFrom (tapeOf stream) threshold 0 secret) x).data.getD i 0⟩ :
      Element) = ⟨secret.getD i 0⟩ + ∑ j : Fin (threshold - 1),
        coefficients _ _ stream i j * (⟨UInt8.ofNat x⟩ : Element) ^ (j.val + 1) := by
  have hp : (ofPolynomials (polynomialsFrom (tapeOf stream) threshold 0 secret) x).data.getD i 0 =
      eval (secret[i] :: (tapeOf stream).slice (i * (threshold - 1)) (threshold - 1))
        (UInt8.ofNat x) := by
    simp [ofPolynomials, List.getD_eq_getElem?_getD, getElem?_polynomialsFrom]
  rw [hp, eval_eq_sum, List.length_cons, Tape.length_slice, Finset.sum_range_succ', add_comm,
    Finset.sum_range]
  congr 1
  · simp
  · refine Finset.sum_congr rfl fun j _ => ?_
    rw [List.getD_cons_succ, Tape.getD_slice _ _ j.isLt, byte_coefficients]

section Count
variable {secret : Bytes} {total threshold : ℕ} {indices : Finset ℕ} {data : ℕ → Bytes}
  (hs : secret ≠ []) (hk : 2 ≤ threshold) (hn : threshold ≤ total) (hmax : total ≤ maxShares)
  (hi : ∀ x ∈ indices, 1 ≤ x ∧ x ≤ total)
  (hdata : ∀ x ∈ indices, (data x).length = secret.length)

include hs hk hn hmax in
theorem explains_iff_mem (stream : Fin (secret.length * (threshold - 1)) → UInt8) :
    Explains secret total threshold indices data stream ↔
      ∀ x ∈ indices, ⟨x, data x⟩ ∈
        sharesOf (polynomialsFrom (tapeOf stream) threshold 0 secret) total := by
  unfold Explains
  simp only [gives_split_iff, Int.toNat_natCast]
  constructor
  · rintro ⟨_, _, ⟨-, rfl, -⟩, -, h⟩
    exact h
  · intro h
    refine ⟨_, _, ⟨⟨by omega, by omega, by omega, hs⟩, rfl, rfl⟩, ?_, h⟩
    exact Nat.zero_add _

include hs hk hn hmax hi hdata

/-- **What a view says**: for each byte of the secret, what its further coefficients add at the
viewed points. -/
theorem explains_iff (stream : Fin (secret.length * (threshold - 1)) → UInt8) :
    Explains secret total threshold indices data stream ↔ ∀ i : Fin secret.length,
      shift (pointsOf indices) (threshold - 1) (coefficients _ _ stream i) =
        residue secret indices data i := by
  rw [explains_iff_mem hs hk hn hmax]
  have hbyte (x : ℕ) (hx : x ∈ indices) (i : Fin secret.length) :
      (data x).getD i 0 =
          (ofPolynomials (polynomialsFrom (tapeOf stream) threshold 0 secret) x).data.getD i 0 ↔
        ∑ j : Fin (threshold - 1), coefficients _ _ stream i j *
          (⟨UInt8.ofNat x⟩ : Element) ^ (j.val + 1) =
            ⟨(data x).getD i 0⟩ - ⟨secret.getD i 0⟩ := by
    rw [eq_sub_iff_add_eq', ← getD_ofPolynomials, eq_comm, Element.ext_iff]
  constructor
  · intro h i
    ext1 ⟨a, ha⟩
    obtain ⟨x, hx, rfl⟩ := Finset.mem_image.mp ha
    obtain ⟨y, -, -, hy⟩ := mem_sharesOf.mp (h x hx)
    have hxy : x = y := by simpa [ofPolynomials] using congrArg Share.index hy
    subst hxy
    change ∑ j : Fin (threshold - 1), coefficients _ _ stream i j *
      (⟨UInt8.ofNat x⟩ : Element) ^ (j.val + 1) = _
    rw [(hbyte x hx i).mp (by rw [← hy]), residue, toNat_ofNat hmax hi hx]
  · intro h x hx
    refine mem_sharesOf.mpr ⟨x, (hi x hx).1, (hi x hx).2, ?_⟩
    have hl : (ofPolynomials (polynomialsFrom (tapeOf stream) threshold 0 secret) x).data.length =
        secret.length := by
      rw [length_data_ofPolynomials, length_polynomialsFrom]
    have hd : data x =
        (ofPolynomials (polynomialsFrom (tapeOf stream) threshold 0 secret) x).data := by
      refine List.ext_getElem ((hdata x hx).trans hl.symm) fun i h1 h2 => ?_
      have hL : i < secret.length := hl ▸ h2
      have ha : (⟨UInt8.ofNat x⟩ : Element) ∈ pointsOf indices := Finset.mem_image_of_mem _ hx
      have hz := congrFun (h ⟨i, hL⟩) ⟨_, ha⟩
      rw [residue, toNat_ofNat hmax hi hx] at hz
      have := (hbyte x hx ⟨i, hL⟩).mpr hz
      rwa [List.getD_eq_getElem _ _ h1, List.getD_eq_getElem _ _ h2] at this
    rw [hd]
    rfl

/-- **The number of coefficient streams that explain a view** of fewer shares than the threshold is
the same for every secret; a view of one share less than the threshold is explained in one way. -/
theorem card_explanations (ht : indices.card ≤ threshold - 1) :
    Nat.card { stream // Explains secret total threshold indices data stream } =
        256 ^ (secret.length * (threshold - 1 - indices.card)) ∧
      (indices.card = threshold - 1 →
        ∃! stream, Explains secret total threshold indices data stream) := by
  have hcard : Nat.card { stream // Explains secret total threshold indices data stream } =
      256 ^ (secret.length * (threshold - 1 - indices.card)) := by
    let e : { stream // Explains secret total threshold indices data stream } ≃
        Fintype.piFinset fun i : Fin secret.length =>
          Finset.univ.filter fun c => shift (pointsOf indices) (threshold - 1) c =
            residue secret indices data i :=
      (coefficients secret.length (threshold - 1)).subtypeEquiv fun stream => by
        rw [explains_iff hs hk hn hmax hi hdata]
        simp
    rw [Nat.card_congr e, Nat.card_eq_fintype_card, Fintype.card_coe, Fintype.card_piFinset]
    have h0 := zero_notMem_pointsOf hmax hi
    have hm : (pointsOf indices).card ≤ threshold - 1 := by rwa [card_pointsOf hmax hi]
    simp only [card_shift_fiber h0 hm, Finset.prod_const, Finset.card_univ, Fintype.card_fin]
    rw [card_pointsOf hmax hi, ← pow_mul, Nat.mul_comm]
  refine ⟨hcard, fun h => ?_⟩
  rw [h, Nat.sub_self, Nat.mul_zero, pow_zero, Nat.card_eq_one_iff_exists] at hcard
  obtain ⟨⟨stream, hstream⟩, hunique⟩ := hcard
  exact ⟨stream, hstream, fun s h => congrArg Subtype.val (hunique ⟨s, h⟩)⟩

end Count

/-- One share of a two byte secret of which three shares are needed: any of 256 coefficients is
possible for either byte. -/
theorem card_explanations_one_of_three :
    Nat.card { stream // Explains [0, 255] 5 3 {4} (fun _ => [83, 7]) stream } = 65536 :=
  (@card_explanations [0, 255] 5 3 {4} (fun _ => [83, 7]) (by decide) (by decide) (by decide)
    (by decide) (by decide) (by decide) (by decide)).1

end PasswordVault.Share
