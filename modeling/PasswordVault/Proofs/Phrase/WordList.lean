import PasswordVault.Phrase.WordList
import PasswordVault.Text.Utf8
import Mathlib.Data.List.Nodup
import Mathlib.Data.Nat.Notation

/-!
# Words and their places

The words of the list are written with small letters, and the numbers that their first four letters
write rise through the list, so no word stands there twice. Both are checked in one walk through the
list, which looks at bytes only.

* `rises_all`: the walk;
* `isLower_of_mem_all`, `ne_nil_of_mem_all`, `nodup_all`: what it says about the words;
* `place?_eq_some_iff`: **the place of a word** is the one where it stands.
-/

namespace PasswordVault.WordList

/-! ### A walk through the list -/

def bytes (word : String) : Bytes :=
  word.toByteArray.data.toList

/-- The number that the first four bytes of a word write, with zeros behind a shorter one. -/
def key (word : String) : ℕ :=
  Bytes.toNatBE ((bytes word ++ [0, 0, 0, 0]).take 4)

def isSmall (b : UInt8) : Bool :=
  Nat.ble 97 b.toNat && Nat.ble b.toNat 122

/-- Whether the words have small letters only and keys that rise, all of them above the number. -/
def rises : (above : ℕ) → List String → Bool
  | _, [] => true
  | above, w :: ws => Nat.blt above (key w) && (bytes w).all isSmall && rises (key w) ws

theorem rises_all : rises 0 all = true := by
  decide +kernel

theorem of_rises {above : ℕ} {ws : List String} (h : rises above ws = true) :
    (∀ w ∈ ws, above < key w ∧ ∀ b ∈ bytes w, isSmall b = true) ∧
      ws.Pairwise fun v w => key v < key w := by
  induction ws generalizing above with
  | nil => exact ⟨nofun, .nil⟩
  | cons w ws ih =>
    simp only [rises, Bool.and_eq_true, Nat.blt_eq, List.all_eq_true] at h
    obtain ⟨⟨hw, hs⟩, hr⟩ := h
    obtain ⟨hws, hp⟩ := ih hr
    refine ⟨List.forall_mem_cons.mpr ⟨⟨hw, hs⟩, fun v hv => ⟨?_, (hws v hv).2⟩⟩, ?_⟩
    · exact Nat.lt_trans hw (hws v hv).1
    · exact List.pairwise_cons.mpr ⟨fun v hv => (hws v hv).1, hp⟩

/-! ### The words -/

theorem encode_eq_bytes (word : String) : Utf8.encode word = bytes word := by
  rw [bytes, ← String.utf8Encode_toList, List.utf8Encode, List.data_toByteArray]
  rfl

/-- A character whose bytes are small letters is one: in a longer form all bytes are above 127. -/
theorem isLower_of_isSmall {c : Char} (h : ∀ b ∈ String.utf8EncodeChar c, isSmall b = true) :
    c.isLower = true := by
  have hsmall {b : UInt8} (hb : isSmall b = true) : 97 ≤ b.toNat ∧ b.toNat ≤ 122 := by
    simpa only [isSmall, Bool.and_eq_true, Nat.ble_eq] using hb
  revert h
  fun_cases String.utf8EncodeChar c with
  | case1 v hv =>
    intro h
    obtain ⟨h1, h2⟩ := hsmall (h _ List.mem_cons_self)
    rw [UInt8.toNat_ofNat_of_lt' (Nat.lt_of_le_of_lt hv (by decide))] at h1 h2
    refine Bool.and_eq_true_iff.mpr ⟨decide_eq_true ?_, decide_eq_true ?_⟩
    · exact UInt32.le_iff_toNat_le.mpr h1
    · exact UInt32.le_iff_toNat_le.mpr h2
  | case2 | case3 | case4 =>
    intro h
    have := hsmall (h _ List.mem_cons_self)
    simp only [UInt8.toNat_ofNat'] at this
    omega

theorem isLower_of_mem_all {w : String} (hw : w ∈ all) : ∀ c ∈ w.toList, c.isLower = true := by
  intro c hc
  refine isLower_of_isSmall fun b hb => ((of_rises rises_all).1 w hw).2 b ?_
  rw [← encode_eq_bytes]
  exact List.mem_flatMap.mpr ⟨c, hc, hb⟩

theorem ne_nil_of_mem_all {w : String} (hw : w ∈ all) : w.toList ≠ [] := by
  intro h
  have hk := ((of_rises rises_all).1 w hw).1
  rw [String.toList_eq_nil_iff.mp h] at hk
  exact absurd hk (by decide)

theorem nodup_all : all.Nodup :=
  (of_rises rises_all).2.imp fun h e => absurd (e ▸ h) (Nat.lt_irrefl _)

theorem word_eq_getElem {d : ℕ} (hd : d < all.length) : word d = all[d] := by
  simp [word, table, hd]

theorem word_mem_all {d : ℕ} (hd : d < 2048) : word d ∈ all := by
  rw [← length_all] at hd
  rw [word_eq_getElem hd]
  exact List.getElem_mem hd

/-- **The place of a word** is the one where it stands. -/
theorem place?_eq_some_iff {w : String} {d : ℕ} : place? w = some d ↔ d < 2048 ∧ word d = w := by
  rw [place?, List.idxOf?_eq_some_iff, ← length_all]
  constructor
  · rintro ⟨hd, he, -⟩
    exact ⟨hd, (word_eq_getElem hd).trans he⟩
  · rintro ⟨hd, he⟩
    rw [word_eq_getElem hd] at he
    refine ⟨hd, he, fun j hj hw => ?_⟩
    have hjd : j = d := nodup_all.getElem_inj_iff.mp (hw.trans he.symm)
    omega

end PasswordVault.WordList
