import PasswordVault.Aead.ChaCha
import PasswordVault.Aead.Gcm
import PasswordVault.Entropy

/-!
# Authenticated encryption

A value is sealed under a key of 32 bytes and a nonce of twelve: the ciphertext is the plaintext and
the keystream added up, and the tag of sixteen bytes authenticates the ciphertext and the associated
data. Opening compares the tag before anything is decrypted. The name of the cipher is checked
before the lengths when opening and after the length of the key when sealing.

* `Cipher.mask_mask`: masking twice with one key and nonce gives the text back;
* `Sealed.openWith?_ofPlaintext`: what was sealed is opened again.
-/

namespace PasswordVault

/-- AES-256 in Galois counter mode, and ChaCha20 with Poly1305. -/
inductive Cipher where
  | aesGcm
  | chaCha
  deriving DecidableEq, Repr

namespace Cipher

def name : Cipher → String
  | .aesGcm => "aes-256-gcm"
  | .chaCha => "chacha20-poly1305"

def ofName? (name : String) : Option Cipher :=
  if name = aesGcm.name then some aesGcm
  else if name = chaCha.name then some chaCha
  else none

/-- The cipher with a name, or the complaint that there is none. -/
def ofName (name : String) : Except Error Cipher :=
  match ofName? name with
  | some cipher => .ok cipher
  | none => .error (.unknownCipher name)

/-- At least `length` bytes of keystream. -/
def keystream : Cipher → (key nonce : Bytes) → (length : Nat) → Bytes
  | .aesGcm => Gcm.keystream
  | .chaCha => ChaCha.keystream

def tag : Cipher → (key nonce ad ciphertext : Bytes) → Bytes
  | .aesGcm => Gcm.tag
  | .chaCha => ChaCha.tag

/-- The text with the keystream added, which encrypts and decrypts. -/
def mask (cipher : Cipher) (key nonce text : Bytes) : Bytes :=
  Bytes.xor text (cipher.keystream key nonce text.length)

end Cipher

def keyLength : Nat := 32

def nonceLength : Nat := 12

def tagLength : Nat := 16

/-! ### Lengths -/

namespace Cipher

@[simp] theorem length_tag (cipher : Cipher) (key nonce ad ciphertext : Bytes) :
    (cipher.tag key nonce ad ciphertext).length = tagLength := by
  cases cipher <;> simp [tag, tagLength]

theorem le_length_keystream (cipher : Cipher) {key nonce : Bytes} (hk : key.length = keyLength)
    (hn : nonce.length = nonceLength) (length : Nat) :
    length ≤ (cipher.keystream key nonce length).length := by
  cases cipher with
  | aesGcm => exact Gcm.le_length_keystream key nonce length
  | chaCha => exact ChaCha.le_length_keystream hk hn length

theorem length_mask (cipher : Cipher) {key nonce : Bytes} (hk : key.length = keyLength)
    (hn : nonce.length = nonceLength) (text : Bytes) :
    (cipher.mask key nonce text).length = text.length := by
  rw [mask, Bytes.length_xor]
  exact Nat.min_eq_left (cipher.le_length_keystream hk hn text.length)

theorem mask_mask (cipher : Cipher) {key nonce : Bytes} (hk : key.length = keyLength)
    (hn : nonce.length = nonceLength) (text : Bytes) :
    cipher.mask key nonce (cipher.mask key nonce text) = text := by
  rw [mask, length_mask cipher hk hn, mask]
  exact Bytes.xor_xor_cancel (cipher.le_length_keystream hk hn text.length)

end Cipher

/-! ### Sealed values -/

/-- The three parts of a sealed value: the nonce is drawn for this value alone, and the ciphertext
is as long as the plaintext. -/
structure Sealed where
  nonce : Bytes
  tag : Bytes
  ciphertext : Bytes
  deriving DecidableEq, Repr

namespace Sealed

/-- The parts that a plaintext is sealed to. -/
def ofPlaintext (cipher : Cipher) (key nonce ad plaintext : Bytes) : Sealed :=
  let ciphertext := cipher.mask key nonce plaintext
  ⟨nonce, cipher.tag key nonce ad ciphertext, ciphertext⟩

/-- Seals a plaintext with a nonce that is drawn for it, under a key of the right length. -/
def sealWith (cipher : Cipher) (key ad plaintext : Bytes) : Draw Sealed := do
  let nonce ← draw nonceLength
  return ofPlaintext cipher key nonce ad plaintext

/-- Seals a plaintext with the cipher of the given name; nothing is drawn unless key and name are
right. -/
def sealNamed (name : String) (key ad plaintext : Bytes) : Attempt Sealed := do
  if key.length ≠ keyLength then throw (.keyLength key.length)
  let cipher ← Attempt.ofExcept (Cipher.ofName name)
  sealWith cipher key ad plaintext

/-- Whether key, nonce and tag have the right lengths. -/
def WellFormed (box : Sealed) (key : Bytes) : Prop :=
  key.length = keyLength ∧ box.nonce.length = nonceLength ∧ box.tag.length = tagLength

instance (box : Sealed) (key : Bytes) : Decidable (box.WellFormed key) :=
  inferInstanceAs (Decidable (_ ∧ _ ∧ _))

/-- The plaintext, if the lengths are right and the tag is the one of these parts. -/
def openWith? (box : Sealed) (cipher : Cipher) (key ad : Bytes) : Option Bytes :=
  if box.WellFormed key ∧ cipher.tag key box.nonce ad box.ciphertext = box.tag then
    some (cipher.mask key box.nonce box.ciphertext)
  else none

/-- The plaintext, or the failure that says no more than that the box did not open. -/
def openWith (box : Sealed) (cipher : Cipher) (key ad : Bytes) : Except Error Bytes :=
  match box.openWith? cipher key ad with
  | some plaintext => .ok plaintext
  | none => .error .decryption

/-- The plaintext of a box sealed with the cipher of the given name. -/
def openNamed (box : Sealed) (name : String) (key ad : Bytes) : Except Error Bytes := do
  let cipher ← Cipher.ofName name
  box.openWith cipher key ad

theorem openWith?_ofPlaintext (cipher : Cipher) {key nonce : Bytes} (ad plaintext : Bytes)
    (hk : key.length = keyLength) (hn : nonce.length = nonceLength) :
    (ofPlaintext cipher key nonce ad plaintext).openWith? cipher key ad = some plaintext := by
  have h : (ofPlaintext cipher key nonce ad plaintext).WellFormed key :=
    ⟨hk, hn, cipher.length_tag key nonce ad _⟩
  rw [openWith?, if_pos ⟨h, rfl⟩]
  exact congrArg some (cipher.mask_mask hk hn plaintext)

end Sealed

end PasswordVault
