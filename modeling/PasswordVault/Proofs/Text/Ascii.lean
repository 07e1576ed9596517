import PasswordVault.Text.Base64
import PasswordVault.Text.Case
import PasswordVault.Text.Utf8
import Mathlib.Data.List.Basic
import Mathlib.Data.Nat.Notation

/-!
# Texts of ASCII characters

In UTF-8 a text of ASCII characters has one byte for each character, its code point. Base64 texts
are such texts.

* `forall_ascii`: what holds of each of 128 characters;
* `Utf8.encode_of_isAscii`: the bytes of an ASCII text;
* `Base64.isAscii_encode`: base64 is ASCII;
* `Text.upper_of_isAscii`: the upper-case form of an ASCII text, letter by letter.
-/

namespace PasswordVault

/-- All characters are ASCII. -/
def IsAscii (cs : List Char) : Prop := ∀ c ∈ cs, c.toNat < 128

/-- What holds of the 128 characters one by one holds of every ASCII character. -/
@[elab_as_elim] theorem forall_ascii {p : Char → Prop} {c : Char} (hc : c.toNat < 128)
    (h : ∀ n < 128, p (Char.ofNat n)) : p c := by
  rw [← Char.ofNat_toNat c]
  exact h c.toNat hc

theorem Utf8.encodeChar_of_lt {c : Char} (h : c.toNat < 128) :
    String.utf8EncodeChar c = [UInt8.ofNat c.toNat] := by
  have hd : ∀ n < 128, String.utf8EncodeChar (Char.ofNat n) =
      [UInt8.ofNat (Char.ofNat n).toNat] := by
    decide +kernel
  exact forall_ascii h hd

theorem Utf8.encode_of_isAscii {s : String} (h : IsAscii s.toList) :
    Utf8.encode s = s.toList.map fun c => UInt8.ofNat c.toNat := by
  rw [Utf8.encode, List.map_eq_flatMap]
  exact List.flatMap_congr fun c hc => encodeChar_of_lt (h c hc)

namespace Base64

theorem toNat_digit_lt (n : ℕ) : (digit n).toNat < 128 := by
  have hd : ∀ n < 64, (digit n).toNat < 128 := by decide +kernel
  have e : digit (n % 64) = digit n := by simp [digit]
  rw [← e]
  exact hd (n % 64) (Nat.mod_lt n (by decide))

theorem isAscii_encodeChars (bs : Bytes) : IsAscii (encodeChars bs) := by
  fun_induction encodeChars bs with
  | case1 => simp [IsAscii]
  | case2 a => simp [IsAscii, toNat_digit_lt]
  | case3 a b => simp [IsAscii, toNat_digit_lt]
  | case4 a b c rest ih =>
    intro d hd
    simp only [List.mem_cons] at hd
    rcases hd with rfl | rfl | rfl | rfl | hd
    · exact toNat_digit_lt _
    · exact toNat_digit_lt _
    · exact toNat_digit_lt _
    · exact toNat_digit_lt _
    · exact ih d hd

theorem isAscii_encode (bs : Bytes) : IsAscii (encode bs).toList := by
  rw [encode, String.toList_ofList]
  exact isAscii_encodeChars bs

end Base64

namespace Text

theorem upperChar_of_lt {c : Char} (h : c.toNat < 128) : upperChar c = [c.toUpper] := by
  have hd : ∀ n < 128, upperChar (Char.ofNat n) = [(Char.ofNat n).toUpper] := by
    decide +kernel
  exact forall_ascii h hd

theorem upper_of_isAscii {cs : List Char} (h : IsAscii cs) : upper cs = cs.map Char.toUpper := by
  rw [upper, List.map_eq_flatMap]
  exact List.flatMap_congr fun c hc => upperChar_of_lt (h c hc)

/-- Only letters of ASCII have another form in this mapping. -/
theorem toUpper_of_le {c : Char} (h : 128 ≤ c.toNat) : c.toUpper = c := by
  have hz : ¬ (c.val ≥ 'a'.val ∧ c.val ≤ 'z'.val) := fun ⟨_, hz⟩ => by
    have : c.toNat ≤ 122 := UInt32.le_iff_toNat_le.mp hz
    omega
  exact dif_neg hz

end Text

end PasswordVault
