import PasswordVault.Proofs.Json.RoundTrip
import PasswordVault.Proofs.Vault.Export

/-!
# The parts of a box

A cipher turns a plaintext into one byte string, the ciphertext with the tag behind it. A box keeps
the two apart, each as text; to open it they are put together again. Nothing of the plaintext is
lost on this way, nor on the way of the box through JSON.

* `Cipher.encrypt`, `Cipher.decrypt?`: the byte string of a plaintext and the plaintext of a byte
  string, `Cipher.decrypt?_encrypt`;
* `Sealed.ofPlaintext_eq_cut`, `Sealed.openWith?_eq_decrypt?`: the parts are cut from that byte
  string, and opening decrypts what they are put together to;
* `Box.openNamed_sealNamed`: **what is sealed opens again**, with either cipher.
-/

namespace PasswordVault

/-! ### Ciphertext and tag in one piece -/

namespace Cipher

/-- The ciphertext of a plaintext, with the tag behind it. -/
def encrypt (cipher : Cipher) (key nonce ad plaintext : Bytes) : Bytes :=
  let ciphertext := cipher.mask key nonce plaintext
  ciphertext ++ cipher.tag key nonce ad ciphertext

/-- The plaintext of a ciphertext with a tag behind it, if the tag is the right one. -/
def decrypt? (cipher : Cipher) (key nonce ad sealed : Bytes) : Option Bytes :=
  let ciphertext := sealed.take (sealed.length - tagLength)
  if cipher.tag key nonce ad ciphertext = sealed.drop (sealed.length - tagLength) then
    some (cipher.mask key nonce ciphertext)
  else none

end Cipher

theorem take_append_tag {ciphertext tag : Bytes} (h : tag.length = tagLength) :
    (ciphertext ++ tag).take ((ciphertext ++ tag).length - tagLength) = ciphertext := by
  rw [List.length_append, h, Nat.add_sub_cancel, List.take_left]

theorem drop_append_tag {ciphertext tag : Bytes} (h : tag.length = tagLength) :
    (ciphertext ++ tag).drop ((ciphertext ++ tag).length - tagLength) = tag := by
  rw [List.length_append, h, Nat.add_sub_cancel, List.drop_left]

namespace Cipher

variable {key nonce : Bytes} (hk : key.length = keyLength) (hn : nonce.length = nonceLength)

theorem decrypt?_append (cipher : Cipher) (key nonce ad ciphertext : Bytes) {tag : Bytes}
    (h : tag.length = tagLength) : cipher.decrypt? key nonce ad (ciphertext ++ tag) =
      if cipher.tag key nonce ad ciphertext = tag then some (cipher.mask key nonce ciphertext)
      else none := by
  simp only [decrypt?, take_append_tag h, drop_append_tag h]

include hk hn

theorem length_encrypt (cipher : Cipher) (ad plaintext : Bytes) :
    (cipher.encrypt key nonce ad plaintext).length = plaintext.length + tagLength := by
  rw [encrypt, List.length_append, cipher.length_mask hk hn, cipher.length_tag]

/-- **Decrypting inverts encrypting.** -/
theorem decrypt?_encrypt (cipher : Cipher) (ad plaintext : Bytes) :
    cipher.decrypt? key nonce ad (cipher.encrypt key nonce ad plaintext) = some plaintext := by
  rw [encrypt, decrypt?_append cipher _ _ _ _ (cipher.length_tag _ _ _ _), if_pos rfl,
    cipher.mask_mask hk hn]

end Cipher

namespace Sealed

/-- The parts of a ciphertext with a tag behind it. -/
def cut (nonce sealed : Bytes) : Sealed :=
  ⟨nonce, sealed.drop (sealed.length - tagLength), sealed.take (sealed.length - tagLength)⟩

theorem ofPlaintext_eq_cut (cipher : Cipher) (key nonce ad plaintext : Bytes) :
    ofPlaintext cipher key nonce ad plaintext =
      cut nonce (cipher.encrypt key nonce ad plaintext) := by
  have ht := cipher.length_tag key nonce ad (cipher.mask key nonce plaintext)
  rw [cut, Cipher.encrypt, take_append_tag ht, drop_append_tag ht]
  rfl

/-- Put together again, the parts are what they were cut from. -/
theorem append_cut (nonce sealed : Bytes) :
    (cut nonce sealed).ciphertext ++ (cut nonce sealed).tag = sealed :=
  List.take_append_drop _ sealed

theorem length_cut {sealed : Bytes} {count : ℕ} (h : sealed.length = count + tagLength)
    (nonce : Bytes) : (cut nonce sealed).tag.length = tagLength ∧
      (cut nonce sealed).ciphertext.length = count := by
  simp only [cut, List.length_drop, List.length_take, h]
  omega

theorem openWith?_eq_decrypt? {parts : Sealed} {key : Bytes} (h : parts.WellFormed key)
    (cipher : Cipher) (ad : Bytes) : parts.openWith? cipher key ad =
      cipher.decrypt? key parts.nonce ad (parts.ciphertext ++ parts.tag) := by
  rw [Cipher.decrypt?_append cipher _ _ _ _ h.2.2, openWith?]
  simp only [h, true_and]

end Sealed

/-! ### Sealing under the name of a cipher -/

theorem Cipher.ofName_name (cipher : Cipher) : ofName cipher.name = .ok cipher := by
  cases cipher <;> rfl

namespace Sealed

theorem gives_sealNamed (cipher : Cipher) {key : Bytes} (hk : key.length = keyLength)
    (ad plaintext : Bytes) (tape : Tape) :
    Gives (sealNamed cipher.name key ad plaintext) tape
      (ofPlaintext cipher key (tape.slice tape.position nonceLength) ad plaintext)
      (tape.advance nonceLength) := by
  rw [sealNamed, if_neg (not_not.mpr hk)]
  exact gives_ofExcept_bind.mpr ⟨cipher, cipher.ofName_name, gives_draw.mpr ⟨rfl, rfl⟩⟩

theorem openNamed_name {parts : Sealed} {cipher : Cipher} {key ad plaintext : Bytes}
    (h : parts.openWith? cipher key ad = some plaintext) :
    parts.openNamed cipher.name key ad = .ok plaintext := by
  rw [openNamed, cipher.ofName_name]
  change parts.openWith cipher key ad = _
  rw [openWith, h]

end Sealed

namespace Box

theorem openNamed_ofSealed {parts : Sealed} (hn : parts.nonce.length = nonceLength)
    (ht : parts.tag.length = tagLength) (name : String) (key ad : Bytes) :
    (ofSealed parts).openNamed name key ad = parts.openNamed name key ad := by
  rw [openNamed, parts?_ofSealed hn ht]

theorem whole_ofSealed (parts : Sealed) : (ofSealed parts).Whole :=
  ⟨rfl, rfl, rfl⟩

/-- The text of a box is read back. -/
theorem parse?_compact_toJson {box : Box} (h : box.Whole) :
    Json.parse? .document (Json.compact box.toJson) = some box.toJson :=
  Json.parse?_compact .document (Vault.plain_toJson_box h) (by decide : 1 ≤ 1024)

/-- **What is sealed opens again.** With either cipher and under a key of the right length, with or
without associated data, whatever the nonce that is drawn: the box opens to the plaintext, and so
does the box that is read from the text of its stored form. Its texts write a nonce of twelve bytes,
a tag of sixteen and a ciphertext as long as the plaintext; these are the parts that sealing without
a box gives, cut from the ciphertext with the tag behind it, and they open to the plaintext as
well. -/
theorem openNamed_sealNamed (cipher : Cipher) {key : Bytes} (hk : key.length = 32)
    (given : Option Bytes) (plaintext : Bytes) (tape : Tape) :
    let ad := given.getD []
    ∃ box parts rest,
      Gives (sealNamed cipher.name key ad plaintext) tape box rest ∧
      Gives (Sealed.sealNamed cipher.name key ad plaintext) tape parts rest ∧
      box.openNamed cipher.name key ad = .ok plaintext ∧
      (Json.parse? .document (Json.compact box.toJson)).map ofJson = some (.accepted box) ∧
      parts.openNamed cipher.name key ad = .ok plaintext ∧
      (Base64.decode? box.nonce = some parts.nonce ∧ parts.nonce.length = 12) ∧
      (Base64.decode? box.tag = some parts.tag ∧ parts.tag.length = 16) ∧
      (Base64.decode? box.ciphertext = some parts.ciphertext ∧
        parts.ciphertext.length = plaintext.length) ∧
      parts = Sealed.cut parts.nonce (cipher.encrypt key parts.nonce ad plaintext) ∧
      cipher.decrypt? key parts.nonce ad (parts.ciphertext ++ parts.tag) = some plaintext := by
  intro ad
  let nonce := tape.slice tape.position nonceLength
  have hn : nonce.length = nonceLength := Tape.length_slice _ _ _
  let parts := Sealed.cut nonce (cipher.encrypt key nonce ad plaintext)
  obtain ⟨ht, hc⟩ := Sealed.length_cut (cipher.length_encrypt hk hn ad plaintext) nonce
  have hparts : Gives (Sealed.sealNamed cipher.name key ad plaintext) tape parts
      (tape.advance nonceLength) := by
    have h := Sealed.gives_sealNamed cipher hk ad plaintext tape
    rwa [Sealed.ofPlaintext_eq_cut] at h
  have hdecrypt :
      cipher.decrypt? key nonce ad (parts.ciphertext ++ parts.tag) = some plaintext := by
    rw [Sealed.append_cut, cipher.decrypt?_encrypt hk hn]
  have hopen : parts.openNamed cipher.name key ad = .ok plaintext := by
    refine Sealed.openNamed_name ?_
    rw [Sealed.openWith?_eq_decrypt? ⟨hk, hn, ht⟩]
    exact hdecrypt
  refine ⟨ofSealed parts, parts, _, gives_bind.mpr ⟨parts, _, hparts, gives_pure.mpr ⟨rfl, rfl⟩⟩,
    hparts, ?_, ?_, hopen, ⟨Base64.decode?_encode _, hn⟩, ⟨Base64.decode?_encode _, ht⟩,
    ⟨Base64.decode?_encode _, hc⟩, rfl, hdecrypt⟩
  · rw [openNamed_ofSealed hn ht, hopen]
  · rw [parse?_compact_toJson (whole_ofSealed parts)]
    exact congrArg some (ofJson_toJson _)

/-- Nineteen bytes, sealed with associated data and opened from the text of the stored box. -/
theorem openNamed_sealNamed_stored :
    let key : Bytes := (List.range 32).map fun i => UInt8.ofNat (7 * i + 3)
    let plaintext : Bytes := (List.range 19).map fun i => UInt8.ofNat (13 * i + 200)
    ∃ box stored parts rest,
      Gives (sealNamed "chacha20-poly1305" key [1, 2] plaintext) ⟨fun i => UInt8.ofNat (5 * i), 5⟩
        box rest ∧
      (Json.parse? .document (Json.compact box.toJson)).map ofJson = some (.accepted stored) ∧
      stored.openNamed "chacha20-poly1305" key [1, 2] = .ok plaintext ∧
      Base64.decode? stored.ciphertext = some parts ∧ parts.length = 19 := by
  intro key plaintext
  have hk : key.length = 32 := by decide
  obtain ⟨box, parts, rest, hbox, -, hopen, hstored, -, -, -, ⟨hciphertext, hl⟩, -⟩ :=
    openNamed_sealNamed .chaCha hk (some [1, 2]) plaintext ⟨fun i => UInt8.ofNat (5 * i), 5⟩
  exact ⟨box, box, parts.ciphertext, rest, hbox, hstored, hopen, hciphertext, hl⟩

end Box

end PasswordVault
