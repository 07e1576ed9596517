import PasswordVault.Json.Given
import PasswordVault.Proofs.Attempt
import PasswordVault.Vault.Box
import Mathlib.Tactic.SplitIfs

/-!
# What is sealed opens again

A box that was sealed under a key of the right length opens under that key, with the same cipher and
associated data, to what was sealed.

* `sealWith_eq`: the box and the tape after it;
* `openWith?_sealWith`: **sealing, then opening**, `Sealed.eq_ofPlaintext_of_openWith?` the other
  way round;
* `length_of_openWith?`: what the key of a box that opened is known by;
* `read_of_stands`: a box that is handed over, as it is or as its stored form.
-/

namespace PasswordVault

/-- What is handed over is the value, either as it is or in its stored form. -/
def Given.Stands {α : Type} (toJson : α → Json) (given : Given α) (a : α) : Prop :=
  given = .value a ∨ given = .json (toJson a)

/-- What opens was sealed, with its own nonce. -/
theorem Sealed.eq_ofPlaintext_of_openWith? {parts : Sealed} {cipher : Cipher}
    {key ad plaintext : Bytes} (h : parts.openWith? cipher key ad = some plaintext) :
    parts = ofPlaintext cipher key parts.nonce ad plaintext := by
  unfold openWith? at h
  split_ifs at h with hw
  obtain ⟨⟨hk, hn, -⟩, htag⟩ := hw
  obtain rfl := Option.some.inj h
  rw [ofPlaintext, cipher.mask_mask hk hn, htag]

namespace Box

theorem sealWith_eq (cipher : Cipher) (key ad plaintext : Bytes) (tape : Tape) :
    sealWith cipher key ad plaintext tape =
      (ofSealed (Sealed.ofPlaintext cipher key (tape.slice tape.position nonceLength) ad plaintext),
        tape.advance nonceLength) :=
  rfl

/-- **Sealing, then opening** gives the plaintext. -/
theorem openWith?_sealWith (cipher : Cipher) {key : Bytes} (hk : key.length = keyLength)
    (ad plaintext : Bytes) (tape : Tape) :
    (sealWith cipher key ad plaintext tape).1.openWith? cipher key ad = some plaintext := by
  have hn : (tape.slice tape.position nonceLength).length = nonceLength := Tape.length_slice _ _ _
  rw [sealWith_eq, openWith?_ofSealed hn (cipher.length_tag _ _ _ _)]
  exact Sealed.openWith?_ofPlaintext cipher ad plaintext hk hn

/-- Only a key of the right length opens a box. -/
theorem length_of_openWith? {box : Box} {cipher : Cipher} {key ad plaintext : Bytes}
    (h : box.openWith? cipher key ad = some plaintext) : key.length = keyLength := by
  obtain ⟨parts, -, h⟩ := Option.bind_eq_some_iff.mp h
  unfold Sealed.openWith? at h
  split_ifs at h with hw
  exact hw.1.1

theorem read_of_stands {given : Given Box} {box : Box} (h : given.Stands toJson box) :
    given.read ofJson = .accepted box := by
  rcases h with rfl | rfl
  · rfl
  · exact ofJson_toJson box

end Box

end PasswordVault
