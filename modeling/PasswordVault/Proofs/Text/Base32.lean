import PasswordVault.Proofs.Digits
import PasswordVault.Proofs.Text.Ascii
import PasswordVault.Text.Base32
import Mathlib.Tactic.SplitIfs

/-!
# Base32 is read as it is written, up to the spare bits

The last character of a text can have bits that no byte uses: `spare` of them. They are zero when
bytes are written, and reading drops them. So a text is read if it has a character for each five
bits of some bytes, and what is written for these bytes is the text again, with the spare bits of
its last character set to zero.

* `value?_eq_some_iff`: the characters and their numbers;
* `decodeChars?_eq_some_iff`: **the bytes in a text**, `exists_decodeChars?_iff` for when there are
  any;
* `decodeChars?_encodeChars`: what was written is read back;
* `encodeChars_of_decodeChars?`: what is written for the bytes that were read.
-/

namespace PasswordVault.Base32

/-! ### Characters -/

theorem toNat_lt_of_value? {c : Char} {v : ℕ} (h : value? c = some v) : c.toNat < 128 := by
  have hz {d : Char} (hd : d.toNat < 128) (hc : c ≤ d) : c.toNat < 128 :=
    Nat.lt_of_le_of_lt (UInt32.le_iff_toNat_le.mp (Char.le_def.mp hc)) hd
  unfold value? at h
  split_ifs at h with h1 h2
  · exact hz (d := 'Z') (by decide) h1.2
  · exact hz (d := '7') (by decide) h2.2

theorem value?_eq_some_iff {c : Char} {v : ℕ} : value? c = some v ↔ v < 32 ∧ digit v = c := by
  constructor
  · intro h
    have hd : ∀ n < 128, ∀ v ∈ value? (Char.ofNat n), v < 32 ∧ digit v = Char.ofNat n := by
      decide
    have hc := hd c.toNat (toNat_lt_of_value? h) v
    rw [Char.ofNat_toNat] at hc
    exact hc h
  · rintro ⟨hv, rfl⟩
    exact value?_digit v hv

theorem exists_value?_iff {c : Char} :
    (∃ v, value? c = some v) ↔ ('A' ≤ c ∧ c ≤ 'Z') ∨ ('2' ≤ c ∧ c ≤ '7') := by
  unfold value?
  split_ifs with h1 h2
  · exact iff_of_true ⟨_, rfl⟩ (Or.inl h1)
  · exact iff_of_true ⟨_, rfl⟩ (Or.inr h2)
  · exact iff_of_false nofun (not_or.mpr ⟨h1, h2⟩)

theorem mapM_value?_eq_some_iff {cs : List Char} {ds : List ℕ} :
    cs.mapM value? = some ds ↔ (∀ d ∈ ds, d < 32) ∧ ds.map digit = cs :=
  Digits.mapM_eq_some_iff value?_eq_some_iff

theorem exists_mapM_value?_iff {cs : List Char} : (∃ ds, cs.mapM value? = some ds) ↔
    ∀ c ∈ cs, ('A' ≤ c ∧ c ≤ 'Z') ∨ ('2' ≤ c ∧ c ≤ '7') := by
  simp only [← exists_value?_iff]
  constructor
  · rintro ⟨ds, hds⟩ c hc
    obtain ⟨hlt, rfl⟩ := mapM_value?_eq_some_iff.mp hds
    obtain ⟨d, hd, rfl⟩ := List.mem_map.mp hc
    exact ⟨d, value?_digit d (hlt d hd)⟩
  · intro h
    choose! f hf using h
    refine ⟨cs.map f, mapM_value?_eq_some_iff.mpr ⟨fun d hd => ?_, ?_⟩⟩
    · obtain ⟨c, hc, rfl⟩ := List.mem_map.mp hd
      exact (value?_eq_some_iff.mp (hf c hc)).1
    · rw [List.map_map]
      exact (List.map_congr_left fun c hc => (value?_eq_some_iff.mp (hf c hc)).2).trans
        (List.map_id cs)

/-! ### Numbers -/

theorem digits_eq_ofNat (count n : ℕ) : digits count n = Digits.ofNat 32 count n := by
  induction count generalizing n with
  | zero => rfl
  | succ count ih => rw [digits, ih, Digits.ofNat]

theorem number_eq_toNat (ds : List ℕ) : number ds = Digits.toNat 32 ds :=
  rfl

/-- The bits of the last character that no byte uses. -/
def spare (bytes : ℕ) : ℕ :=
  5 * textLength bytes - 8 * bytes

theorem five_mul_textLength (bytes : ℕ) : 5 * textLength bytes = 8 * bytes + spare bytes := by
  unfold spare textLength
  omega

theorem spare_lt (bytes : ℕ) : spare bytes < 5 := by
  unfold spare textLength
  omega

theorem eq_div_of_textLength {bytes count : ℕ} (h : textLength bytes = count) :
    5 * count / 8 = bytes := by
  unfold textLength at h
  omega

theorem pow_textLength (bytes : ℕ) : 32 ^ textLength bytes = 256 ^ bytes * 2 ^ spare bytes := by
  have h32 : (32 : ℕ) = 2 ^ 5 := rfl
  have h256 : (256 : ℕ) = 2 ^ 8 := rfl
  rw [h32, h256, ← Nat.pow_mul, ← Nat.pow_mul, ← Nat.pow_add, five_mul_textLength]

/-! ### Texts -/

theorem encodeChars_eq (bs : Bytes) : encodeChars bs =
    (Digits.ofNat 32 (textLength bs.length)
      (Bytes.toNatBE bs * 2 ^ spare bs.length)).map digit := by
  rw [← digits_eq_ofNat]
  rfl

theorem decodeChars?_of_mapM {cs : List Char} {ds : List ℕ} {bytes : ℕ}
    (hds : cs.mapM value? = some ds) (hl : ds.length = textLength bytes) :
    decodeChars? cs = some (Bytes.ofNatBE bytes (Digits.toNat 32 ds / 2 ^ spare bytes)) := by
  have hsize : 5 * ds.length / 8 = bytes := eq_div_of_textLength hl.symm
  rw [decodeChars?, hds, Option.bind_eq_bind, Option.bind_some, hsize, if_pos hl.symm, hl]
  rfl

theorem mem_encodeChars {bs : Bytes} {c : Char} (h : c ∈ encodeChars bs) :
    ∃ n < 32, digit n = c := by
  rw [encodeChars_eq] at h
  obtain ⟨n, hn, rfl⟩ := List.mem_map.mp h
  exact ⟨n, Digits.lt_of_mem_ofNat (by decide) hn, rfl⟩

/-- The spare bits dropped, a number is one of whole bytes. -/
theorem div_spare_lt {ds : List ℕ} {bytes : ℕ} (hlt : ∀ d ∈ ds, d < 32)
    (hl : ds.length = textLength bytes) : Digits.toNat 32 ds / 2 ^ spare bytes < 256 ^ bytes := by
  have h := Digits.toNat_lt hlt
  rw [hl, pow_textLength, Nat.mul_comm] at h
  exact Nat.div_lt_of_lt_mul h

/-- **The bytes in a text**: as many as its length tells, with the number that it writes less the
spare bits. -/
theorem decodeChars?_eq_some_iff {cs : List Char} {bs : Bytes} : decodeChars? cs = some bs ↔
    ∃ ds, cs.mapM value? = some ds ∧ ds.length = textLength bs.length ∧
      Digits.toNat 32 ds / 2 ^ spare bs.length = Bytes.toNatBE bs := by
  constructor
  · intro h
    obtain ⟨ds, hds, hif⟩ := Option.bind_eq_some_iff.mp h
    obtain ⟨hl, -⟩ := Option.ite_none_right_eq_some.mp hif
    rw [decodeChars?_of_mapM hds hl.symm, Option.some_inj] at h
    subst h
    have hlt := div_spare_lt (mapM_value?_eq_some_iff.mp hds).1 hl.symm
    rw [Bytes.length_ofNatBE, Bytes.toNatBE_ofNatBE, Nat.mod_eq_of_lt hlt]
    exact ⟨ds, hds, hl.symm, rfl⟩
  · rintro ⟨ds, hds, hl, hn⟩
    rw [decodeChars?_of_mapM hds hl, hn, Bytes.ofNatBE_toNatBE]

/-- **Which texts are read**, and how many bytes they have. -/
theorem exists_decodeChars?_iff {cs : List Char} {bytes : ℕ} :
    (∃ bs, decodeChars? cs = some bs ∧ bs.length = bytes) ↔
      cs.length = textLength bytes ∧ ∀ c ∈ cs, ('A' ≤ c ∧ c ≤ 'Z') ∨ ('2' ≤ c ∧ c ≤ '7') := by
  constructor
  · rintro ⟨bs, h, rfl⟩
    obtain ⟨ds, hds, hl, -⟩ := decodeChars?_eq_some_iff.mp h
    have hc := exists_mapM_value?_iff.mp ⟨ds, hds⟩
    obtain ⟨-, rfl⟩ := mapM_value?_eq_some_iff.mp hds
    exact ⟨by rw [List.length_map, hl], hc⟩
  · rintro ⟨hl, hc⟩
    obtain ⟨ds, hds⟩ := exists_mapM_value?_iff.mpr hc
    obtain ⟨-, rfl⟩ := mapM_value?_eq_some_iff.mp hds
    rw [List.length_map] at hl
    exact ⟨_, decodeChars?_of_mapM hds hl, Bytes.length_ofNatBE _ _⟩

/-! ### Reading what was written, and writing what was read -/

/-- **What was written is read back.** -/
theorem decodeChars?_encodeChars (bs : Bytes) : decodeChars? (encodeChars bs) = some bs := by
  refine decodeChars?_eq_some_iff.mpr ⟨_, mapM_value?_eq_some_iff.mpr
    ⟨fun d => Digits.lt_of_mem_ofNat (by decide), (encodeChars_eq bs).symm⟩,
    Digits.length_ofNat _ _ _, ?_⟩
  have hlt : Bytes.toNatBE bs * 2 ^ spare bs.length < 32 ^ textLength bs.length := by
    rw [pow_textLength]
    exact Nat.mul_lt_mul_of_pos_right (Bytes.toNatBE_lt bs) (Nat.two_pow_pos _)
  rw [Digits.toNat_ofNat, Nat.mod_eq_of_lt hlt, Nat.mul_div_cancel _ (Nat.two_pow_pos _)]

theorem encodeChars_inj {bs other : Bytes} : encodeChars bs = encodeChars other ↔ bs = other := by
  constructor
  · intro h
    rw [← Option.some_inj, ← decodeChars?_encodeChars, h, decodeChars?_encodeChars]
  · exact congrArg encodeChars

/-- The number with its `count` lowest bits set to zero. -/
def clearBits (count n : ℕ) : ℕ :=
  n / 2 ^ count * 2 ^ count

/-- The spare bits are bits of the last digit. -/
theorem clearBits_mul_add {count : ℕ} (hc : count ≤ 5) (n d : ℕ) :
    clearBits count (n * 32 + d) = n * 32 + clearBits count d := by
  obtain ⟨k, hk⟩ : ∃ k, 32 = k * 2 ^ count :=
    ⟨2 ^ (5 - count), by rw [← Nat.pow_add, Nat.sub_add_cancel hc]⟩
  rw [clearBits, clearBits, hk, ← Nat.mul_assoc, Nat.add_comm,
    Nat.add_mul_div_right _ _ (Nat.two_pow_pos _), Nat.add_mul, Nat.add_comm]

theorem clearBits_le (count n : ℕ) : clearBits count n ≤ n :=
  Nat.div_mul_le_self n (2 ^ count)

/-- **What is written for the bytes in a text** is the text with the spare bits set to zero. -/
theorem encodeChars_of_decodeChars? {cs : List Char} {c : Char} {v : ℕ} {bs : Bytes}
    (h : decodeChars? (cs ++ [c]) = some bs) (hv : value? c = some v) :
    encodeChars bs = cs ++ [digit (clearBits (spare bs.length) v)] := by
  obtain ⟨ds, hds, hl, hn⟩ := decodeChars?_eq_some_iff.mp h
  obtain ⟨hlt, he⟩ := mapM_value?_eq_some_iff.mp hds
  obtain ⟨front, last, rfl, rfl, hlast⟩ := List.map_eq_append_iff.mp he
  obtain ⟨d, rfl, rfl⟩ := List.map_eq_singleton_iff.mp hlast
  have hd : d < 32 := hlt d (by simp)
  obtain rfl := Option.some.inj ((value?_digit d hd).symm.trans hv)
  have hlt' : ∀ e ∈ front ++ [clearBits (spare bs.length) d], e < 32 := by
    intro e he
    rcases List.mem_append.mp he with he | he
    · exact hlt e (List.mem_append_left _ he)
    · rw [List.mem_singleton.mp he]
      exact Nat.lt_of_le_of_lt (clearBits_le _ _) hd
  have hnum : Bytes.toNatBE bs * 2 ^ spare bs.length =
      Digits.toNat 32 (front ++ [clearBits (spare bs.length) d]) := by
    rw [← hn, Digits.toNat_concat, Digits.toNat_concat]
    exact clearBits_mul_add (Nat.le_of_lt (spare_lt _)) _ _
  have hlen : textLength bs.length = (front ++ [clearBits (spare bs.length) d]).length := by
    rw [← hl, List.length_append, List.length_append]
    rfl
  rw [encodeChars_eq, hnum, hlen, Digits.ofNat_toNat hlt', List.map_append, List.map_singleton]

end PasswordVault.Base32
