import PasswordVault.Proofs.Share.Interpolant

/-!
# Altered shares

Each share enters the combined secret with a weight that is not zero. So where the data of one share
are altered the result is altered, and nowhere else: no share can be wrong without the secret being
wrong.

* `alter`: shares with other data in one of them;
* `exists_combine_alter`: what altered data add to the secret, `exists_combine_alter_iff` for where
  they add nothing;
* `combine_alter_ne`: altered data of any length never combine to the same secret;
* `combine_altered_byte`: **one altered byte of one share**.
-/

namespace PasswordVault.Share

open ByteField

variable {length : ℕ} {shares : List Share} {n : ℕ} (hn : n < shares.length)

/-- The shares with other data in the one at place `n`, which keeps its index. -/
def alter (shares : List Share) (n : ℕ) (hn : n < shares.length) (data : Bytes) : List Share :=
  shares.set n ⟨shares[n].index, data⟩

theorem map_alter {α : Type} {f : Share → α} (hf : ∀ s data, f ⟨s.index, data⟩ = f s)
    (data : Bytes) : (alter shares n hn data).map f = shares.map f := by
  have hl : n < (shares.map f).length := by rwa [List.length_map]
  have hget : (shares.map f)[n] = f shares[n] := List.getElem_map f
  rw [alter, List.map_set, hf, ← hget, List.set_getElem_self]

theorem map_index_alter (data : Bytes) : (alter shares n hn data).map index = shares.map index :=
  map_alter hn (fun _ _ => rfl) data

theorem map_point_alter (data : Bytes) : (alter shares n hn data).map point = shares.map point :=
  map_alter hn (fun _ _ => rfl) data

theorem getElem?_eq_iff {a b : Bytes} (h : a.length = b.length) (j : ℕ) :
    a[j]? = b[j]? ↔ a.getD j 0 = b.getD j 0 := by
  by_cases hj : j < a.length
  · rw [List.getElem?_eq_getElem hj, List.getElem?_eq_getElem (h ▸ hj), Option.some_inj,
      List.getD_eq_getElem _ _ hj, List.getD_eq_getElem _ _ (h ▸ hj)]
  · rw [List.getElem?_eq_none (by omega), List.getElem?_eq_none (by omega),
      List.getD_eq_default _ _ (by omega), List.getD_eq_default _ _ (by omega)]
    exact iff_of_true rfl rfl

/-! ### The data of one share -/

section Combinable
variable (h : Combinable length shares)
include h

theorem zero_notMem_points : 0 ∉ shares.map point := by
  intro h0
  obtain ⟨s, hs, hp⟩ := List.mem_map.mp h0
  exact point_ne_zero (h.hasIndex s hs) hp

theorem Combinable.alter {data : Bytes} (hd : data.length = length) :
    Combinable length (alter shares n hn data) where
  nonempty := List.ne_nil_of_length_pos (by rw [Share.alter, List.length_set]; omega)
  hasIndex s hs := by
    rcases List.mem_or_eq_of_mem_set hs with hs | rfl
    · exact h.hasIndex s hs
    · exact h.hasIndex shares[n] (List.getElem_mem hn)
  length_data s hs := by
    rcases List.mem_or_eq_of_mem_set hs with hs | rfl
    · exact h.length_data s hs
    · exact hd
  nodup := by
    rw [map_index_alter]
    exact h.nodup

theorem length_of_combine {secret : Bytes} (hs : combine shares = .ok secret) :
    secret.length = length := by
  obtain rfl := Except.ok.inj ((combine_eq h).symm.trans hs)
  exact length_weightedSum h.length_data _

/-- **What altered data of one share add to the secret**: the difference, times the weight of the
share. -/
theorem exists_combine_alter {secret data : Bytes} (hs : combine shares = .ok secret)
    (hd : data.length = length) : ∃ result, combine (alter shares n hn data) = .ok result ∧
      result.length = length ∧ ∀ j, (⟨result.getD j 0⟩ : Element) = ⟨secret.getD j 0⟩ +
        (⟨data.getD j 0⟩ - ⟨shares[n].data.getD j 0⟩) *
          weight (shares.map point) shares[n].point := by
  have ha := h.alter hn hd
  obtain rfl := Except.ok.inj ((combine_eq h).symm.trans hs)
  refine ⟨_, combine_eq ha, length_weightedSum ha.length_data _, fun j => ?_⟩
  rw [getD_weightedSum ha.length_data, getD_weightedSum h.length_data, map_point_alter, alter,
    List.map_set, List.sum_set', dif_pos (by rwa [List.length_map]), List.getElem_map, sub_mul,
    sub_eq_neg_add]
  rfl

/-- **Where the data of one share are altered the secret is altered**, and nowhere else. -/
theorem exists_combine_alter_iff {secret data : Bytes} (hs : combine shares = .ok secret)
    (hd : data.length = length) : ∃ result, combine (alter shares n hn data) = .ok result ∧
      result.length = secret.length ∧
      ∀ j : ℕ, result[j]? = secret[j]? ↔ data[j]? = shares[n].data[j]? := by
  obtain ⟨result, hr, hl, hj⟩ := exists_combine_alter hn h hs hd
  have hsl := length_of_combine h hs
  have hold := h.length_data _ (List.getElem_mem hn)
  have hw := weight_ne_zero (zero_notMem_points h) shares[n].point
  refine ⟨result, hr, hl.trans hsl.symm, fun j => ?_⟩
  have he : (⟨result.getD j 0⟩ : Element) = ⟨secret.getD j 0⟩ ↔
      (⟨data.getD j 0⟩ : Element) = ⟨shares[n].data.getD j 0⟩ := by
    rw [hj, add_eq_left, mul_eq_zero, or_iff_left hw, sub_eq_zero]
  rw [getElem?_eq_iff (hl.trans hsl.symm), getElem?_eq_iff (hd.trans hold.symm)]
  exact (Element.ext_iff.symm.trans he).trans Element.ext_iff

end Combinable

theorem combine_alter_ne {secret data : Bytes} (hs : combine shares = .ok secret)
    (hd : data ≠ shares[n].data) : combine (alter shares n hn data) ≠ .ok secret := by
  intro ha
  obtain ⟨length, h⟩ := exists_combinable_of_combine_eq_ok hs
  obtain ⟨length', h'⟩ := exists_combinable_of_combine_eq_ok ha
  -- Data of another length are refused, or are those of the only share and show in the result.
  have hlength : data.length = length := by
    rw [← length_of_combine h hs, length_of_combine h' ha]
    exact h'.length_data ⟨shares[n].index, data⟩ (List.mem_set hn _)
  obtain ⟨result, hr, -, hj⟩ := exists_combine_alter_iff hn h hs hlength
  obtain rfl := Except.ok.inj (hr.symm.trans ha)
  exact hd (List.ext_getElem? fun j => (hj j).mp rfl)

/-! ### One byte of one share -/

theorem getElem?_set_eq_iff {data : Bytes} {i : ℕ} {b : UInt8} (hi : i < data.length)
    (hb : b ≠ data[i]) (j : ℕ) : (data.set i b)[j]? = data[j]? ↔ j ≠ i := by
  by_cases hj : j = i
  · subst hj
    rw [List.getElem?_set_self hi, List.getElem?_eq_getElem hi, Option.some_inj]
    exact ⟨fun he => absurd he hb, fun hne => absurd rfl hne⟩
  · rw [List.getElem?_set_ne (Ne.symm hj)]
    exact ⟨fun _ => hj, fun _ => rfl⟩

/-- **One altered byte of one share.** When one byte of one of the shares that combine to a secret
is replaced by another byte, the shares still combine, and the result differs from the secret at the
position of that byte and nowhere else. With any other data in place of those of one share, of
whatever length, the shares do not combine to the secret. -/
theorem combine_altered_byte {secret : Bytes} (hs : combine shares = .ok secret) :
    (∀ i b, (hi : i < shares[n].data.length) → b ≠ shares[n].data[i] →
      ∃ result, combine (alter shares n hn (shares[n].data.set i b)) = .ok result ∧
        result.length = secret.length ∧ ∀ j : ℕ, result[j]? ≠ secret[j]? ↔ j = i) ∧
    ∀ data, data ≠ shares[n].data → combine (alter shares n hn data) ≠ .ok secret := by
  refine ⟨fun i b hi hb => ?_, fun data => combine_alter_ne hn hs⟩
  obtain ⟨length, h⟩ := exists_combinable_of_combine_eq_ok hs
  have hold : shares[n].data.length = length := h.length_data _ (List.getElem_mem hn)
  have hd : (shares[n].data.set i b).length = length := by rw [List.length_set, hold]
  obtain ⟨result, hr, hl, hj⟩ := exists_combine_alter_iff hn h hs hd
  refine ⟨result, hr, hl, fun j => ?_⟩
  rw [Ne, hj, getElem?_set_eq_iff hi hb, not_not]

/-- Three shares of three bytes, of which the second has its last byte altered. -/
theorem combine_altered_byte_of_three :
    let shares : List Share := [⟨4, [255, 217, 217]⟩, ⟨1, [90, 9, 198]⟩, ⟨2, [125, 66, 89]⟩]
    combine shares = .ok [83, 0, 255] ∧
      ∃ result, combine (alter shares 1 (by decide) [90, 9, 199]) = .ok result ∧
        result.length = 3 ∧ ∀ j, result[j]? ≠ ([83, 0, 255] : Bytes)[j]? ↔ j = 2 := by
  intro shares
  have hs : combine shares = .ok [83, 0, 255] := by decide +kernel
  exact ⟨hs, (combine_altered_byte (n := 1) (by decide) hs).1 2 199 (by decide) (by decide)⟩

end PasswordVault.Share
