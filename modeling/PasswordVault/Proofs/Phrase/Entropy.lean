import PasswordVault.Phrase.Basic
import PasswordVault.Proofs.Digits
import PasswordVault.Proofs.Phrase.WordList

/-!
# Phrases and their entropy

Twelve places of eleven bits hold the sixteen bytes of the entropy and the four bits of the
checksum, so a phrase is the base-2048 writing of one number. What is read as entropy is what writes
the same words, with its own checksum.

* `mapM_place?_eq_some_iff`: the places of several words;
* `length_ofEntropy`, `mem_all_of_mem_ofEntropy`: a phrase has twelve words of the list;
* `entropy?_eq_some_iff`: **reading and writing** of entropy.
-/

namespace PasswordVault.Phrase

/-! ### Words and places -/

theorem places_eq_ofNat (count n : ℕ) : places count n = Digits.ofNat 2048 count n := by
  induction count generalizing n with
  | zero => rfl
  | succ count ih => rw [places, ih, Digits.ofNat]

theorem number_eq_toNat (ds : List ℕ) : number ds = Digits.toNat 2048 ds :=
  rfl

theorem length_places (count n : ℕ) : (places count n).length = count := by
  rw [places_eq_ofNat, Digits.length_ofNat]

theorem lt_of_mem_places {count n d : ℕ} (h : d ∈ places count n) : d < 2048 := by
  rw [places_eq_ofNat] at h
  exact Digits.lt_of_mem_ofNat (by decide) h

theorem mapM_place?_eq_some_iff {ws : List String} {ds : List ℕ} :
    ws.mapM WordList.place? = some ds ↔ (∀ d ∈ ds, d < 2048) ∧ ds.map WordList.word = ws :=
  Digits.mapM_eq_some_iff WordList.place?_eq_some_iff

theorem length_ofEntropy (entropy : Bytes) : (ofEntropy entropy).length = wordCount := by
  rw [ofEntropy, List.length_map, length_places]

theorem mem_all_of_mem_ofEntropy {entropy : Bytes} {w : String} (h : w ∈ ofEntropy entropy) :
    w ∈ WordList.all := by
  obtain ⟨d, hd, rfl⟩ := List.mem_map.mp h
  exact WordList.word_mem_all (lt_of_mem_places hd)

/-! ### The number of a phrase -/

theorem checksum_lt (entropy : Bytes) : checksum entropy < 16 := by
  have := ((Sha256.digest entropy).headD 0).toNat_lt
  unfold checksum
  omega

/-- The number that a phrase writes: the entropy and behind it the checksum. -/
def numberOf (entropy : Bytes) : ℕ :=
  Bytes.toNatBE entropy * 16 + checksum entropy

theorem numberOf_lt {entropy : Bytes} (h : entropy.length = entropyLength) :
    numberOf entropy < 2048 ^ wordCount := by
  have he := Bytes.toNatBE_lt entropy
  have hc := checksum_lt entropy
  rw [h] at he
  have hp : 256 ^ entropyLength * 16 = 2048 ^ wordCount := by decide
  unfold numberOf
  omega

theorem numberOf_div (entropy : Bytes) : numberOf entropy / 16 = Bytes.toNatBE entropy := by
  have := checksum_lt entropy
  unfold numberOf
  omega

theorem numberOf_mod (entropy : Bytes) : numberOf entropy % 16 = checksum entropy := by
  have := checksum_lt entropy
  unfold numberOf
  omega

/-- A number of twelve places is that of the entropy in it, if it ends with its checksum. -/
theorem numberOf_ofNatBE {n : ℕ} (hn : n < 2048 ^ wordCount)
    (hc : checksum (Bytes.ofNatBE entropyLength (n / 16)) = n % 16) :
    numberOf (Bytes.ofNatBE entropyLength (n / 16)) = n := by
  have hq : n / 16 < 256 ^ entropyLength := Nat.div_lt_of_lt_mul hn
  rw [numberOf, hc, Bytes.toNatBE_ofNatBE, Nat.mod_eq_of_lt hq, Nat.div_add_mod']

theorem number_places {n : ℕ} (hn : n < 2048 ^ wordCount) : number (places wordCount n) = n := by
  rw [places_eq_ofNat, number_eq_toNat, Digits.toNat_ofNat, Nat.mod_eq_of_lt hn]

theorem places_number {ds : List ℕ} (hl : ds.length = wordCount) (hd : ∀ d ∈ ds, d < 2048) :
    number ds < 2048 ^ wordCount ∧ places wordCount (number ds) = ds := by
  rw [places_eq_ofNat, number_eq_toNat, ← hl]
  exact ⟨Digits.toNat_lt hd, Digits.ofNat_toNat hd⟩

theorem ofEntropy_eq_map (entropy : Bytes) :
    ofEntropy entropy = (places wordCount (numberOf entropy)).map WordList.word :=
  rfl

/-! ### Reading -/

/-- Words are read as the entropy in the number of their places, if that ends with its checksum. -/
theorem entropy?_of_places {ws : List String} {ds : List ℕ} (hl : ws.length = wordCount)
    (hd : ws.mapM WordList.place? = some ds) :
    entropy? ws =
      if checksum (Bytes.ofNatBE entropyLength (number ds / 16)) = number ds % 16 then
        some (Bytes.ofNatBE entropyLength (number ds / 16))
      else none := by
  have hw : ¬ ws.length ≠ wordCount := not_not.mpr hl
  rw [entropy?, if_neg hw, hd, Option.bind_eq_bind, Option.bind_some]
  rfl

theorem exists_places_of_entropy? {ws : List String} {entropy : Bytes}
    (h : entropy? ws = some entropy) :
    ws.length = wordCount ∧ ∃ ds, ws.mapM WordList.place? = some ds := by
  unfold entropy? at h
  split_ifs at h with hl
  obtain ⟨ds, hds, -⟩ := Option.bind_eq_some_iff.mp h
  exact ⟨not_not.mp hl, ds, hds⟩

/-- **Entropy is read** from the words that write it, and from no others. -/
theorem entropy?_eq_some_iff {ws : List String} {entropy : Bytes} :
    entropy? ws = some entropy ↔ entropy.length = entropyLength ∧ ws = ofEntropy entropy := by
  constructor
  · intro h
    obtain ⟨hl, ds, hds⟩ := exists_places_of_entropy? h
    rw [entropy?_of_places hl hds] at h
    split_ifs at h with hc
    obtain rfl := Option.some.inj h
    obtain ⟨hlt, rfl⟩ := mapM_place?_eq_some_iff.mp hds
    rw [List.length_map] at hl
    obtain ⟨hn, hp⟩ := places_number hl hlt
    refine ⟨Bytes.length_ofNatBE _ _, ?_⟩
    rw [ofEntropy_eq_map, numberOf_ofNatBE hn hc, hp]
  · rintro ⟨hl, rfl⟩
    have hds : (ofEntropy entropy).mapM WordList.place? =
        some (places wordCount (numberOf entropy)) :=
      mapM_place?_eq_some_iff.mpr ⟨fun d => lt_of_mem_places, rfl⟩
    rw [entropy?_of_places (length_ofEntropy entropy) hds, number_places (numberOf_lt hl),
      numberOf_div, numberOf_mod, ← hl, Bytes.ofNatBE_toNatBE, if_pos rfl]

end PasswordVault.Phrase
