import PasswordVault.Proofs.Share.Split

/-!
# Combining too few shares

Fewer shares than the threshold are not refused: they combine to a byte string of the length of the
secret. With one share too few each byte is off by the last coefficient drawn for it, times the
product of the indices; so the result is the secret precisely when all these coefficients are zero.

* `lastDrawn`: the highest coefficient of one byte of the secret;
* `combine_polynomialsFrom`: the secret and what the last coefficients add;
* `combine_too_few`: **what too few shares combine to**.
-/

namespace PasswordVault.Share

open ByteField

/-- The last of the coefficients that a split draws for byte `i` of the secret. -/
def lastDrawn (tape : Tape) (threshold i : ℕ) : UInt8 :=
  tape.byte (tape.position + i * (threshold - 1) + (threshold - 2))

/-- Each byte of the secret, with what the last coefficients drawn add to it when one share is
missing. -/
def missed (tape : Tape) (threshold : ℕ) (secret : Bytes) (chosen : List Share) : Bytes :=
  secret.mapIdx fun i byte =>
    byte ^^^ mul (lastDrawn tape threshold i) (product (chosen.map point))

/-! ### One share too few -/

theorem getD_last_polynomialsFrom (tape : Tape) {threshold i : ℕ} {secret : Bytes}
    (hk : 2 ≤ threshold) (hi : i < secret.length) :
    ∃ p, (polynomialsFrom tape threshold tape.position secret)[i]? = some p ∧
      p.headD 0 = secret[i] ∧ p.getD (threshold - 1) 0 = lastDrawn tape threshold i := by
  obtain ⟨m, rfl⟩ := Nat.exists_eq_add_of_le hk
  refine ⟨_, by rw [getElem?_polynomialsFrom, List.getElem?_eq_getElem hi]; rfl, rfl, ?_⟩
  have hm : 2 + m - 1 = m + 1 := by omega
  rw [lastDrawn, hm, List.getD_cons_succ, Tape.getD_slice _ _ (Nat.lt_succ_self m)]
  congr 2
  omega

theorem combine_polynomialsFrom {tape : Tape} {total threshold : ℕ} {secret : Bytes}
    (hk : 2 ≤ threshold) (hmax : total ≤ maxShares) {chosen : List Share}
    (hc : chosen ⊆ sharesOf (polynomialsFrom tape threshold tape.position secret) total)
    (hd : chosen.Nodup) (hl : chosen.length + 1 = threshold) :
    combine chosen = .ok (missed tape threshold secret chosen) := by
  have h0 : chosen ≠ [] := List.ne_nil_of_length_pos (by omega)
  rw [combine_of_le_length_succ hmax hc hd h0 fun p hp => by
    have := length_of_mem_polynomialsFrom (by omega) hp
    exact ⟨List.ne_nil_of_length_pos (by omega), by omega⟩]
  congr 1
  refine List.ext_getElem (by simp [missed, length_polynomialsFrom]) fun i h1 h2 => ?_
  have hi : i < secret.length := by simpa [missed] using h2
  obtain ⟨p, hp, hh, hlast⟩ := getD_last_polynomialsFrom tape hk hi
  have hpi := (List.getElem?_eq_some_iff.mp hp).2
  have hlen : chosen.length = threshold - 1 := by omega
  simp only [missed, List.getElem_map, List.getElem_mapIdx, hpi, hh, hlen, hlast]

theorem missed_eq_iff {tape : Tape} {threshold : ℕ} {secret : Bytes} {chosen : List Share}
    (h : ∀ s ∈ chosen, s.HasIndex) : missed tape threshold secret chosen = secret ↔
      ∀ i < secret.length, lastDrawn tape threshold i = 0 := by
  have hp : product (chosen.map point) ≠ 0 := product_ne_zero fun x hx => by
    obtain ⟨s, hs, rfl⟩ := List.mem_map.mp hx
    exact point_ne_zero (h s hs)
  have hp' : (⟨product (chosen.map point)⟩ : Element) ≠ 0 := fun h => hp (congrArg Element.byte h)
  have hbyte (b c : UInt8) : b ^^^ mul c (product (chosen.map point)) = b ↔ c = 0 := by
    have he : (⟨b⟩ + ⟨c⟩ * ⟨product (chosen.map point)⟩ : Element) = ⟨b⟩ ↔ (⟨c⟩ : Element) = 0 := by
      rw [add_eq_left, mul_eq_zero, or_iff_left hp']
    exact (Element.ext_iff.symm.trans he).trans Element.ext_iff
  constructor
  · intro he i hi
    have hget : (missed tape threshold secret chosen)[i]? = secret[i]? := by rw [he]
    simpa [missed, hi, hbyte] using hget
  · intro hz
    refine List.ext_getElem (by simp [missed]) fun i h1 h2 => ?_
    simp only [missed, List.getElem_mapIdx, hbyte]
    exact hz i h2

/-- **What too few shares combine to.** Any shares of a split that are fewer than the threshold give
a byte string of the length of the secret. One share too few gives each byte of the secret plus the
product of the last coefficient drawn for it with the indices; that is the secret itself precisely
when the last coefficients are all zero. -/
theorem combine_too_few {secret : Bytes} {total threshold : ℕ} (tape : Tape) (hs : secret ≠ [])
    (hk : 2 ≤ threshold) (hn : threshold ≤ total) (hmax : total ≤ maxShares) :
    ∃ shares rest, Gives (split secret total threshold) tape shares rest ∧
      ∀ chosen, chosen ⊆ shares → chosen.Nodup → chosen ≠ [] → chosen.length < threshold →
        ∃ result, combine chosen = .ok result ∧ result.length = secret.length ∧
          (chosen.length + 1 = threshold →
            (∀ i (hi : i < secret.length), result.getD i 0 =
              secret[i] ^^^ mul (lastDrawn tape threshold i) (product (chosen.map point))) ∧
            (result = secret ↔ ∀ i < secret.length, lastDrawn tape threshold i = 0)) := by
  refine ⟨_, _, gives_split_iff.mpr ⟨⟨by omega, by omega, by omega, hs⟩, rfl, rfl⟩, ?_⟩
  intro chosen hc hd h0 hl
  obtain ⟨result, hr, hlen, -⟩ := combine_of_degree_le (combinable_ofPolynomials hmax hc hd h0)
  refine ⟨result, hr, hlen.trans (length_polynomialsFrom ..), fun hone => ?_⟩
  have hm := combine_polynomialsFrom hk hmax hc hd hone
  obtain rfl := Except.ok.inj (hr.symm.trans hm)
  refine ⟨fun i hi => ?_, missed_eq_iff fun s h => hasIndex_of_mem_sharesOf hmax (hc h)⟩
  rw [List.getD_eq_getElem _ _ (by simpa [missed] using hi)]
  exact List.getElem_mapIdx ..

/-- Two of three shares that are needed, the last one first. -/
theorem combine_too_few_two_of_three : ∃ a b c d e rest,
    Gives (split [0, 255] 5 3) ⟨fun i => UInt8.ofNat (7 * i), 0⟩ [a, b, c, d, e] rest ∧
      ∃ result, combine [e, a] = .ok result ∧ result ≠ [0, 255] := by
  obtain ⟨shares, rest, hg, hc⟩ := @combine_too_few [0, 255] 5 3
    ⟨fun i => UInt8.ofNat (7 * i), 0⟩ (by decide) (by decide) (by decide) (by decide)
  have hx : shares.map index = [1, 2, 3, 4, 5] := by
    rw [(gives_split_iff.mp hg).2.1]
    exact map_index_sharesOf _ _
  match shares, hx with
  | [a, b, c, d, e], hx =>
    have hn : [a, b, c, d, e].Nodup := List.Nodup.of_map index (by rw [hx]; decide)
    obtain ⟨result, hr, -, h⟩ := hc [e, a] (by simp) (by grind) (by simp) (by simp)
    refine ⟨a, b, c, d, e, rest, hg, result, hr, fun he => ?_⟩
    exact absurd (((h rfl).2.mp he) 0 (by decide)) (by decide)

end PasswordVault.Share
