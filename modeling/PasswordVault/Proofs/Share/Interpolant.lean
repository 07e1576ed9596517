import PasswordVault.Proofs.ByteField.Residue
import PasswordVault.Proofs.Share.Combine

/-!
# What any shares combine to

Shares need not come from a split: any that pass the checks have one polynomial of a degree below
their number through each byte position, and combine to its value at zero. The checks refuse nothing
else, and behind them nothing fails. The polynomials are over the residues modulo `0x11D`.

* `Interpolates`, `existsUnique_interpolates`: the polynomial through one byte of the shares;
* `exists_error_iff`, `eq_of_combine_eq_error`: which shares are refused, and how;
* `combine_of_perm`: the order of the shares does not matter;
* `combine_eq_interpolation`: **what any list of shares combines to**.
-/

namespace PasswordVault.Share

open Polynomial ByteField

/-- The polynomial has a degree below the number of shares and goes through byte `i` of each. -/
structure Interpolates (shares : List Share) (i : ℕ) (p : (AdjoinRoot modulus)[X]) : Prop where
  degree : p.degree < shares.length
  eval : ∀ s ∈ shares, p.eval (residue s.point) = residue (s.data.getD i 0)

/-! ### The polynomial -/

theorem interpolates_map_iff {shares : List Share} {i : ℕ} {p : Element[X]} :
    Interpolates shares i (p.map residueHom) ↔ p.degree < shares.length ∧
      ∀ s ∈ shares, p.eval ⟨s.point⟩ = ⟨s.data.getD i 0⟩ := by
  have he (s : Share) : (p.map residueHom).eval (residue s.point) = residue (s.data.getD i 0) ↔
      p.eval ⟨s.point⟩ = ⟨s.data.getD i 0⟩ := by
    change (p.map residueHom).eval (residueHom ⟨s.point⟩) = residueHom ⟨s.data.getD i 0⟩ ↔ _
    rw [eval_map_apply, residueHom_bijective.1.eq_iff]
  have hd : (p.map residueHom).degree = p.degree :=
    degree_map_eq_of_injective residueHom_bijective.1 p
  constructor
  · rintro ⟨hdegree, heval⟩
    exact ⟨hd ▸ hdegree, fun s hs => (he s).mp (heval s hs)⟩
  · rintro ⟨hdegree, heval⟩
    exact ⟨hd ▸ hdegree, fun s hs => (he s).mpr (heval s hs)⟩

theorem exists_map_residueHom (p : (AdjoinRoot modulus)[X]) :
    ∃ q : Element[X], q.map residueHom = p :=
  map_surjective residueHom residueHom_bijective.2 p

theorem Interpolates.of_perm {shares other : List Share} {i : ℕ} {p : (AdjoinRoot modulus)[X]}
    (h : Interpolates shares i p) (hp : other.Perm shares) : Interpolates other i p :=
  ⟨hp.length_eq ▸ h.degree, fun s hs => h.eval s (hp.mem_iff.mp hs)⟩

section Combinable
variable {length : ℕ} {shares : List Share} (h : Combinable length shares)
include h

theorem injOn_point : Set.InjOn (fun s : Share => (⟨s.point⟩ : Element)) shares.toFinset := by
  intro s hs t ht he
  exact List.inj_on_of_nodup_map (nodup_points h) (List.mem_toFinset.mp hs)
    (List.mem_toFinset.mp ht) (congrArg Element.byte he)

theorem card_toFinset : shares.toFinset.card = shares.length :=
  List.toFinset_card_of_nodup (List.Nodup.of_map index h.nodup)

/-- **Through each byte of the shares goes one polynomial.** -/
theorem existsUnique_interpolates (i : ℕ) : ∃! p, Interpolates shares i p := by
  let p : Element[X] := Lagrange.interpolate shares.toFinset (fun s => ⟨s.point⟩) fun s =>
    ⟨s.data.getD i 0⟩
  have hp : Interpolates shares i (p.map residueHom) := by
    refine interpolates_map_iff.mpr ⟨?_, fun s hs => ?_⟩
    · have := Lagrange.degree_interpolate_lt (fun s : Share => (⟨s.data.getD i 0⟩ : Element))
        (injOn_point h)
      rwa [card_toFinset h] at this
    · exact Lagrange.eval_interpolate_at_node _ (injOn_point h) (List.mem_toFinset.mpr hs)
  refine ⟨_, hp, fun q hq => ?_⟩
  obtain ⟨q, rfl⟩ := exists_map_residueHom q
  obtain ⟨hpd, hpe⟩ := interpolates_map_iff.mp hp
  obtain ⟨hqd, hqe⟩ := interpolates_map_iff.mp hq
  rw [← card_toFinset h] at hpd hqd
  congr 1
  refine eq_of_degrees_lt_of_eval_index_eq _ (injOn_point h) hqd hpd fun s hs => ?_
  have hs := List.mem_toFinset.mp hs
  rw [hqe s hs, hpe s hs]

theorem exists_combine_eq_interpolation : ∃ secret, combine shares = .ok secret ∧
    secret.length = length ∧
      ∀ i p, Interpolates shares i p → p.eval 0 = residue (secret.getD i 0) := by
  obtain ⟨secret, hs, hl, hi⟩ := combine_interpolates h
  refine ⟨secret, hs, hl, fun i p hp => ?_⟩
  obtain ⟨p, rfl⟩ := exists_map_residueHom p
  obtain ⟨hd, he⟩ := interpolates_map_iff.mp hp
  rw [← map_zero residueHom, eval_map_apply, hi i p hd he]
  rfl

theorem Combinable.of_perm {other : List Share} (hp : other.Perm shares) :
    Combinable length other where
  nonempty hn := h.nonempty (List.nil_perm.mp (hn ▸ hp))
  hasIndex s hs := h.hasIndex s (hp.mem_iff.mp hs)
  length_data s hs := h.length_data s (hp.mem_iff.mp hs)
  nodup := (hp.map index).nodup_iff.mpr h.nodup

/-- **The order of the shares does not matter.** -/
theorem combine_of_perm {other : List Share} (hp : other.Perm shares) :
    combine other = combine shares := by
  obtain ⟨secret, hs, hl, hi⟩ := exists_combine_eq_interpolation h
  obtain ⟨secret', hs', hl', hi'⟩ := exists_combine_eq_interpolation (Combinable.of_perm h hp)
  rw [hs, hs']
  congr 1
  refine List.ext_getElem (hl'.trans hl.symm) fun i h1 h2 => ?_
  obtain ⟨p, hip, -⟩ := existsUnique_interpolates h i
  have he := (hi' i p (hip.of_perm hp)).symm.trans (hi i p hip)
  rw [List.getD_eq_getElem _ _ h1, List.getD_eq_getElem _ _ h2] at he
  have hbyte : (⟨secret'[i]⟩ : Element) = ⟨secret[i]⟩ := residueHom_bijective.1 he
  exact congrArg Element.byte hbyte

end Combinable

/-! ### The checks -/

theorem combinable_of_checks {first : Share} {rest : List Share}
    (hs : checkShapes first.data.length (first :: rest) = .ok ())
    (hd : checkDistinct (first :: rest) = .ok ()) :
    Combinable first.data.length (first :: rest) := by
  have hs := checkShapes_eq_ok_iff.mp hs
  exact ⟨List.cons_ne_nil _ _, fun s h => (hs s h).1, fun s h => (hs s h).2,
    checkDistinct_eq_ok_iff.mp hd⟩

theorem exists_combinable_of_combine_eq_ok {shares : List Share} {secret : Bytes}
    (h : combine shares = .ok secret) : ∃ length, Combinable length shares := by
  cases shares with
  | nil => cases h
  | cons first rest =>
    obtain ⟨_, hs, h⟩ := Except.bind_eq_ok_iff.mp h
    obtain ⟨_, hd, -⟩ := Except.bind_eq_ok_iff.mp h
    exact ⟨_, combinable_of_checks hs hd⟩

theorem not_combinable_iff {shares : List Share} : (¬ ∃ length, Combinable length shares) ↔
    shares = [] ∨ (∃ s ∈ shares, ¬ s.HasIndex) ∨
      (∃ s ∈ shares, ∃ first ∈ shares.head?, s.data.length ≠ first.data.length) ∨
      ¬ (shares.map index).Nodup := by
  constructor
  · intro hc
    by_contra hfaults
    simp only [not_or, not_exists, not_and, not_not] at hfaults
    obtain ⟨hne, hindex, hlength, hnodup⟩ := hfaults
    obtain ⟨first, rest, rfl⟩ := List.exists_cons_of_ne_nil hne
    exact hc ⟨first.data.length, hne, hindex, fun s hs => hlength s hs first rfl, hnodup⟩
  · rintro (hne | ⟨s, hs, hindex⟩ | ⟨s, hs, first, hf, hlength⟩ | hnodup) ⟨length, hc⟩
    · exact hc.nonempty hne
    · exact hindex (hc.hasIndex s hs)
    · exact hlength ((hc.length_data s hs).trans
        (hc.length_data first (List.mem_of_head? hf)).symm)
    · exact hnodup hc.nodup

theorem exists_error_iff {shares : List Share} :
    (∃ e, combine shares = .error e) ↔ ¬ ∃ length, Combinable length shares := by
  constructor
  · rintro ⟨e, he⟩ ⟨length, hc⟩
    rw [combine_eq hc] at he
    cases he
  · intro hc
    cases h : combine shares with
    | error e => exact ⟨e, rfl⟩
    | ok secret => exact absurd (exists_combinable_of_combine_eq_ok h) hc

theorem eq_of_checkShapes_eq_error {length : ℕ} {shares : List Share} {e : Error}
    (h : checkShapes length shares = .error e) : e = .shareIndex ∨ e = .shareLength := by
  induction shares with
  | nil => cases h
  | cons s rest ih =>
    unfold checkShapes at h
    split_ifs at h
    · exact Or.inr (Except.error.inj h).symm
    · exact ih h
    · exact Or.inl (Except.error.inj h).symm

/-- **Nothing but the checks refuses shares**: no weight divides by zero. -/
theorem eq_of_combine_eq_error {shares : List Share} {e : Error} (h : combine shares = .error e) :
    e ∈ [Error.noShares, .shareIndex, .shareLength, .duplicateShare] := by
  cases shares with
  | nil =>
    obtain rfl := Except.error.inj h
    decide
  | cons first rest =>
    rcases Except.bind_eq_error_iff.mp h with h | ⟨_, hs, h⟩
    · rcases eq_of_checkShapes_eq_error h with rfl | rfl <;> decide
    rcases Except.bind_eq_error_iff.mp h with h | ⟨_, hd, h⟩
    · unfold checkDistinct at h
      split_ifs at h
      obtain rfl := Except.error.inj h
      decide
    rcases Except.bind_eq_error_iff.mp h with h | ⟨_, -, h⟩
    · rw [basisAtZero_eq (nodup_points (combinable_of_checks hs hd))] at h
      cases h
    · cases h

/-! ### The result -/

/-- **What any list of shares combines to.** The checks refuse an empty list, an index that is no
non-zero field element, data of another length than that of the first share, and an index that comes
twice. All other shares combine to the values at zero of the polynomials through their bytes, in
whatever order they are listed. -/
theorem combine_eq_interpolation (shares : List Share) :
    ((∃ e, combine shares = .error e) ↔
      shares = [] ∨ (∃ s ∈ shares, ¬ (1 ≤ s.index ∧ s.index ≤ 255)) ∨
        (∃ s ∈ shares, ∃ first ∈ shares.head?, s.data.length ≠ first.data.length) ∨
        ¬ (shares.map index).Nodup) ∧
    (∀ e, combine shares = .error e →
      e ∈ [Error.noShares, .shareIndex, .shareLength, .duplicateShare]) ∧
    ∀ secret, combine shares = .ok secret →
      (∀ s ∈ shares, s.data.length = secret.length) ∧
      (∀ i (hi : i < secret.length), (∃! p, Interpolates shares i p) ∧
        ∀ p, Interpolates shares i p → p.eval 0 = residue secret[i]) ∧
      ∀ other, other.Perm shares → combine other = .ok secret := by
  refine ⟨exists_error_iff.trans not_combinable_iff, fun e => eq_of_combine_eq_error,
    fun secret hs => ?_⟩
  obtain ⟨length, hc⟩ := exists_combinable_of_combine_eq_ok hs
  obtain ⟨secret', hs', hl, hi⟩ := exists_combine_eq_interpolation hc
  obtain rfl : secret' = secret := Except.ok.inj (hs'.symm.trans hs)
  refine ⟨fun s h => (hc.length_data s h).trans hl.symm, fun i h => ⟨?_, fun p hp => ?_⟩,
    fun other hp => ?_⟩
  · exact existsUnique_interpolates hc i
  · rw [hi i p hp, List.getD_eq_getElem _ _ h]
  · rw [combine_of_perm hc hp, hs]

end PasswordVault.Share
