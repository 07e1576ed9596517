import PasswordVault.Proofs.Digits
import PasswordVault.Proofs.Text.Ascii
import PasswordVault.Text.Base64
import Mathlib.Tactic.SplitIfs

/-!
# Base64 is read as it is written, up to the spare bits and the fill

A text is read if it has a character for each six bits of some bytes and then the fill that these
bytes call for. Of the last character reading drops the `spare` bits that no byte uses. The fill
completes the last group of four characters. If the group is complete without it, the fill may have
any length; only the empty text has none.

* `value?_eq_some_iff`: the characters and their numbers;
* `exists_decodeChars?`: a text of the right shape is read;
* `exists_shape_of_decodeChars?`: a text that is read has the right shape;
* `decode?_eq_some_iff`: **the bytes in a text** are those that it `Writes`.
-/

namespace PasswordVault.Base64

/-! ### Characters -/

theorem toNat_lt_of_value? {c : Char} {v : ℕ} (h : value? c = some v) : c.toNat < 128 := by
  have hz {d : Char} (hd : d.toNat < 128) (hc : c ≤ d) : c.toNat < 128 :=
    Nat.lt_of_le_of_lt (UInt32.le_iff_toNat_le.mp (Char.le_def.mp hc)) hd
  unfold value? at h
  split_ifs at h with hupper hlower hdigit hplus hslash
  · exact hz (d := 'Z') (by decide) hupper.2
  · exact hz (d := 'z') (by decide) hlower.2
  · exact hz (d := '9') (by decide) hdigit.2
  · subst hplus
    decide
  · subst hslash
    decide

set_option maxRecDepth 2000 in
theorem value?_eq_some_iff {c : Char} {v : ℕ} : value? c = some v ↔ v < 64 ∧ digit v = c := by
  constructor
  · intro h
    have hd : ∀ n < 128, ∀ v ∈ value? (Char.ofNat n), v < 64 ∧ digit v = Char.ofNat n := by
      decide
    have hc := hd c.toNat (toNat_lt_of_value? h) v
    rw [Char.ofNat_toNat] at hc
    exact hc h
  · rintro ⟨hv, rfl⟩
    exact value?_digit v hv

/-! ### The shape of a text -/

/-- The characters for a number of bytes, without the fill. -/
def textLength (bytes : ℕ) : ℕ :=
  (8 * bytes + 5) / 6

/-- The bits of the last character that no byte uses. -/
def spare (bytes : ℕ) : ℕ :=
  6 * textLength bytes - 8 * bytes

/-- How many `=` may follow the characters for a number of bytes. -/
def Fills (bytes fill : ℕ) : Prop :=
  if bytes % 3 = 0 then bytes = 0 → fill = 0 else bytes % 3 + fill = 3

/-- **What a base64 text writes**: the number of its digits, less the spare bits of the last one, is
that of the bytes. -/
def Writes (text : Text) (bs : Bytes) : Prop :=
  ∃ ds fill, (∀ d ∈ ds, d < 64) ∧
    text = .whole (String.ofList (ds.map digit ++ List.replicate fill '=')) ∧
    ds.length = textLength bs.length ∧ Fills bs.length fill ∧
    Digits.toNat 64 ds / 2 ^ spare bs.length = Bytes.toNatBE bs

theorem textLength_add_three (bytes : ℕ) : textLength (bytes + 3) = textLength bytes + 4 := by
  unfold textLength
  omega

theorem spare_add_three (bytes : ℕ) : spare (bytes + 3) = spare bytes := by
  unfold spare
  rw [textLength_add_three]
  omega

theorem pow_textLength (bytes : ℕ) : 64 ^ textLength bytes = 256 ^ bytes * 2 ^ spare bytes := by
  have h64 : (64 : ℕ) = 2 ^ 6 := rfl
  have h256 : (256 : ℕ) = 2 ^ 8 := rfl
  have h : 6 * textLength bytes = 8 * bytes + spare bytes := by
    unfold spare textLength
    omega
  rw [h64, h256, ← Nat.pow_mul, ← Nat.pow_mul, ← Nat.pow_add, h]

theorem Fills.add_three {bytes fill : ℕ} (h : Fills bytes fill) : Fills (bytes + 3) fill := by
  unfold Fills at h ⊢
  rw [Nat.add_mod_right]
  split_ifs at h ⊢
  · exact nofun
  · exact h

theorem Fills.of_add_three {bytes fill : ℕ} (h : Fills (bytes + 3) fill) (hb : bytes ≠ 0) :
    Fills bytes fill := by
  unfold Fills at h ⊢
  rw [Nat.add_mod_right] at h
  split_ifs at h ⊢
  · exact fun h0 => absurd h0 hb
  · exact h

/-! ### Reading a text of the right shape -/

theorem exists_one? {x y : ℕ} (hx : x < 64) (hy : y < 64) :
    ∃ bs, one? (digit x) (digit y) = some bs ∧ bs.length = 1 ∧
      Bytes.toNatBE bs = Digits.toNat 64 [x, y] / 2 ^ spare 1 := by
  have hs : 2 ^ spare 1 = 16 := rfl
  rw [one?, value?_digit x hx, value?_digit y hy]
  refine ⟨_, rfl, rfl, ?_⟩
  rw [Bytes.toNatBE_eq_toNat, hs]
  simp [Digits.toNat]
  omega

theorem exists_two? {x y z : ℕ} (hx : x < 64) (hy : y < 64) (hz : z < 64) :
    ∃ bs, two? (digit x) (digit y) (digit z) = some bs ∧ bs.length = 2 ∧
      Bytes.toNatBE bs = Digits.toNat 64 [x, y, z] / 2 ^ spare 2 := by
  have hs : 2 ^ spare 2 = 4 := rfl
  rw [two?, value?_digit x hx, value?_digit y hy, value?_digit z hz]
  refine ⟨_, rfl, rfl, ?_⟩
  rw [Bytes.toNatBE_eq_toNat, hs]
  simp [Digits.toNat]
  omega

theorem exists_three? {x y z w : ℕ} (hx : x < 64) (hy : y < 64) (hz : z < 64) (hw : w < 64) :
    ∃ bs, three? (digit x) (digit y) (digit z) (digit w) = some bs ∧ bs.length = 3 ∧
      Bytes.toNatBE bs = Digits.toNat 64 [x, y, z, w] := by
  rw [three?, value?_digit x hx, value?_digit y hy, value?_digit z hz, value?_digit w hw]
  refine ⟨_, rfl, rfl, ?_⟩
  rw [Bytes.toNatBE_eq_toNat]
  simp [Digits.toNat]
  omega

/-- A digit is no fill. -/
theorem all_fill_eq_false {ds : List ℕ} (hd : ∀ d ∈ ds, d < 64) (hne : ds ≠ []) (fill : ℕ) :
    (ds.map digit ++ List.replicate fill '=').all (fun e => e = '=') = false := by
  obtain ⟨d, ds, rfl⟩ := List.exists_cons_of_ne_nil hne
  have h : digit d ≠ '=' := digit_ne_fill d (hd d List.mem_cons_self)
  simp [h]

/-- A complete group stands before the number of the further digits. -/
theorem toNat_div_spare {ds : List ℕ} {bytes : ℕ} (hl : ds.length = textLength bytes)
    (x y z w : ℕ) : Digits.toNat 64 (x :: y :: z :: w :: ds) / 2 ^ spare (bytes + 3) =
      Digits.toNat 64 [x, y, z, w] * 256 ^ bytes + Digits.toNat 64 ds / 2 ^ spare bytes := by
  have h : Digits.toNat 64 (x :: y :: z :: w :: ds) =
      Digits.toNat 64 [x, y, z, w] * 256 ^ bytes * 2 ^ spare bytes + Digits.toNat 64 ds := by
    rw [Nat.mul_assoc, ← pow_textLength, ← hl]
    exact Digits.toNat_append 64 [x, y, z, w] ds
  rw [h, spare_add_three, Nat.add_comm, Nat.add_mul_div_right _ _ (Nat.two_pow_pos _), Nat.add_comm]

theorem exists_cons_of_length {ds : List ℕ} {n : ℕ} (h : ds.length = n + 4) :
    ∃ x y z w rest, ds = x :: y :: z :: w :: rest ∧ rest.length = n := by
  match ds with
  | [] | [_] | [_, _] | [_, _, _] => simp at h
  | x :: y :: z :: w :: rest => exact ⟨x, y, z, w, rest, rfl, by simpa using h⟩

/-- **A text of the right shape is read**, and gives the number of its digits less the spare
bits. -/
theorem exists_decodeChars? {ds : List ℕ} {bytes fill : ℕ} (hd : ∀ d ∈ ds, d < 64)
    (hl : ds.length = textLength bytes) (hf : Fills bytes fill) :
    ∃ bs, decodeChars? (ds.map digit ++ List.replicate fill '=') = some bs ∧ bs.length = bytes ∧
      Bytes.toNatBE bs = Digits.toNat 64 ds / 2 ^ spare bytes := by
  match bytes with
  | 0 =>
    obtain rfl : ds = [] := List.length_eq_zero_iff.mp hl
    obtain rfl : fill = 0 := hf rfl
    exact ⟨[], rfl, rfl, rfl⟩
  | 1 =>
    obtain ⟨x, y, rfl⟩ := List.length_eq_two.mp hl
    obtain ⟨hx, hy⟩ : x < 64 ∧ y < 64 := by simpa using hd
    obtain rfl : fill = 2 := Nat.add_left_cancel hf
    exact exists_one? hx hy
  | 2 =>
    obtain ⟨x, y, z, rfl⟩ := List.length_eq_three.mp hl
    obtain ⟨hx, hy, hz⟩ : x < 64 ∧ y < 64 ∧ z < 64 := by simpa using hd
    obtain rfl : fill = 1 := Nat.add_left_cancel hf
    have hfill : digit z ≠ '=' := digit_ne_fill z hz
    obtain ⟨bs, hbs, hn⟩ := exists_two? hx hy hz
    exact ⟨bs, (if_neg hfill).trans hbs, hn⟩
  | bytes + 3 =>
    rw [textLength_add_three] at hl
    obtain ⟨x, y, z, w, ds, rfl, hds⟩ := exists_cons_of_length hl
    obtain ⟨hx, hy, hz, hw, hlt⟩ :
        x < 64 ∧ y < 64 ∧ z < 64 ∧ w < 64 ∧ ∀ d ∈ ds, d < 64 := by simpa using hd
    have hfill : digit w ≠ '=' := digit_ne_fill w hw
    obtain ⟨group, hgroup, hthree, hnum⟩ := exists_three? hx hy hz hw
    rw [toNat_div_spare hds, ← hnum]
    simp only [List.map_cons, List.cons_append, decodeChars?, if_neg hfill, hgroup,
      Option.bind_eq_bind, Option.bind_some]
    by_cases hb : bytes = 0
    · -- the group is the last one, so that the fill alone follows
      subst hb
      obtain rfl : ds = [] := List.length_eq_zero_iff.mp hds
      rw [if_pos (by simp)]
      exact ⟨group, rfl, hthree, by simp [Digits.toNat]⟩
    · have hne : ds ≠ [] := by
        rintro rfl
        have h0 : 0 = textLength bytes := hds
        unfold textLength at h0
        omega
      obtain ⟨bs, hbs, rfl, hn⟩ := exists_decodeChars? hlt hds (hf.of_add_three hb)
      rw [all_fill_eq_false hlt hne, if_neg Bool.false_ne_true, hbs, ← hn]
      refine ⟨group ++ bs, rfl, ?_, Bytes.toNatBE_append group bs⟩
      rw [List.length_append, hthree, Nat.add_comm]

/-! ### A text that is read -/

theorem exists_digits_of_one? {a b : Char} {bs : Bytes} (h : one? a b = some bs) :
    ∃ x y, x < 64 ∧ y < 64 ∧ digit x = a ∧ digit y = b := by
  obtain ⟨x, vx, h⟩ := Option.bind_eq_some_iff.mp h
  obtain ⟨y, vy, -⟩ := Option.bind_eq_some_iff.mp h
  obtain ⟨hx, rfl⟩ := value?_eq_some_iff.mp vx
  obtain ⟨hy, rfl⟩ := value?_eq_some_iff.mp vy
  exact ⟨x, y, hx, hy, rfl, rfl⟩

theorem exists_digits_of_two? {a b c : Char} {bs : Bytes} (h : two? a b c = some bs) :
    ∃ x y z, x < 64 ∧ y < 64 ∧ z < 64 ∧ digit x = a ∧ digit y = b ∧ digit z = c := by
  obtain ⟨x, vx, h⟩ := Option.bind_eq_some_iff.mp h
  obtain ⟨y, vy, h⟩ := Option.bind_eq_some_iff.mp h
  obtain ⟨z, vz, -⟩ := Option.bind_eq_some_iff.mp h
  obtain ⟨hx, rfl⟩ := value?_eq_some_iff.mp vx
  obtain ⟨hy, rfl⟩ := value?_eq_some_iff.mp vy
  obtain ⟨hz, rfl⟩ := value?_eq_some_iff.mp vz
  exact ⟨x, y, z, hx, hy, hz, rfl, rfl, rfl⟩

theorem exists_digits_of_three? {a b c d : Char} {bs : Bytes} (h : three? a b c d = some bs) :
    ∃ x y z w, x < 64 ∧ y < 64 ∧ z < 64 ∧ w < 64 ∧
      digit x = a ∧ digit y = b ∧ digit z = c ∧ digit w = d := by
  obtain ⟨x, vx, h⟩ := Option.bind_eq_some_iff.mp h
  obtain ⟨y, vy, h⟩ := Option.bind_eq_some_iff.mp h
  obtain ⟨z, vz, h⟩ := Option.bind_eq_some_iff.mp h
  obtain ⟨w, vw, -⟩ := Option.bind_eq_some_iff.mp h
  obtain ⟨hx, rfl⟩ := value?_eq_some_iff.mp vx
  obtain ⟨hy, rfl⟩ := value?_eq_some_iff.mp vy
  obtain ⟨hz, rfl⟩ := value?_eq_some_iff.mp vz
  obtain ⟨hw, rfl⟩ := value?_eq_some_iff.mp vw
  exact ⟨x, y, z, w, hx, hy, hz, hw, rfl, rfl, rfl, rfl⟩

/-- **A text that is read has the right shape.** -/
theorem exists_shape_of_decodeChars? {cs : List Char} {bs : Bytes} (h : decodeChars? cs = some bs) :
    ∃ (ds : List ℕ) (bytes fill : ℕ), (∀ d ∈ ds, d < 64) ∧
      cs = ds.map digit ++ List.replicate fill '=' ∧ ds.length = textLength bytes ∧
      Fills bytes fill := by
  fun_induction decodeChars? cs generalizing bs with
  | case1 => exact ⟨[], 0, 0, nofun, rfl, rfl, fun _ => rfl⟩
  | case2 a b rest hrest =>
    obtain rfl : rest = [] := List.isEmpty_iff.mp hrest
    obtain ⟨x, y, hx, hy, rfl, rfl⟩ := exists_digits_of_one? h
    exact ⟨[x, y], 1, 2, by simp [hx, hy], rfl, rfl, rfl⟩
  | case3 a b c rest hrest hc =>
    obtain rfl : rest = [] := List.isEmpty_iff.mp hrest
    obtain ⟨x, y, z, hx, hy, hz, rfl, rfl, rfl⟩ := exists_digits_of_two? h
    exact ⟨[x, y, z], 2, 1, by simp [hx, hy, hz], rfl, rfl, rfl⟩
  | case4 => cases h
  | case5 a b c d rest hd ih =>
    obtain ⟨group, hgroup, hrest⟩ := Option.bind_eq_some_iff.mp h
    obtain ⟨x, y, z, w, hx, hy, hz, hw, rfl, rfl, rfl, rfl⟩ := exists_digits_of_three? hgroup
    by_cases hfill : rest.all (fun e => e = '=') = true
    · have hall : rest = List.replicate rest.length '=' :=
        List.eq_replicate_length.mpr fun e he => by simpa using List.all_eq_true.mp hfill e he
      refine ⟨[x, y, z, w], 3, rest.length, by simp [hx, hy, hz, hw], ?_, rfl, nofun⟩
      rw [← hall]
      rfl
    · rw [if_neg hfill] at hrest
      obtain ⟨bytes, hbytes, -⟩ := Option.bind_eq_some_iff.mp hrest
      obtain ⟨ds, n, fill, hds, rfl, hl, hf⟩ := ih hbytes
      refine ⟨x :: y :: z :: w :: ds, n + 3, fill, by simpa [hx, hy, hz, hw] using hds, rfl, ?_,
        hf.add_three⟩
      rw [textLength_add_three, ← hl]
      rfl
  | case6 => cases h

/-- **The bytes in a text** are those that it writes. -/
theorem decode?_eq_some_iff {text : Text} {bs : Bytes} :
    decode? text = some bs ↔ Writes text bs := by
  constructor
  · intro h
    cases text with
    | broken => cases h
    | whole s =>
      obtain ⟨ds, bytes, fill, hd, htext, hl, hf⟩ := exists_shape_of_decodeChars? h
      obtain ⟨read, hread, rfl, hn⟩ := exists_decodeChars? hd hl hf
      rw [decode?, htext, hread, Option.some_inj] at h
      subst h
      exact ⟨ds, fill, hd, by rw [← htext, String.ofList_toList], hl, hf, hn.symm⟩
  · rintro ⟨ds, fill, hd, rfl, hl, hf, hn⟩
    obtain ⟨read, hread, hlen, hnum⟩ := exists_decodeChars? hd hl hf
    rw [decode?, String.toList_ofList, hread, Option.some_inj, ← Bytes.ofNatBE_toNatBE read, hlen,
      hnum, hn, Bytes.ofNatBE_toNatBE]

/-- What is written for some bytes writes them. -/
theorem writes_encode (bs : Bytes) : Writes (encode bs) bs :=
  decode?_eq_some_iff.mp (decode?_encode bs)

end PasswordVault.Base64
