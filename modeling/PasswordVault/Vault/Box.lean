import PasswordVault.Aead.Cipher
import PasswordVault.Error
import PasswordVault.Json.Field
import PasswordVault.Text.Base64

/-!
# Boxes

A box is a sealed value as it is stored: nonce, tag and ciphertext, each in base64. A box whose
parts are malformed does not open, just as one with a wrong tag.

* `Base64.decodeSized` reads one part, `Box.parts?` all of them, and `Box.openWith?` the plaintext;
* `parts?_ofSealed`, `ofJson_toJson`: a box gives back the parts it was made of, and so does its
  stored form.
-/

namespace PasswordVault

/-- The bytes that a base64 text writes, which have to be as many as expected, if anything is. -/
def Base64.decodeSized (expected : Option Int) (text : Text) : Except Error Bytes :=
  match decode? text, expected with
  | none, _ => .error .base64
  | some bytes, none => .ok bytes
  | some bytes, some count =>
    if bytes.length = count then .ok bytes else .error (.byteCount count bytes.length)

theorem Base64.decodeSized_encode (bytes : Bytes) :
    Base64.decodeSized (some bytes.length) (Base64.encode bytes) = .ok bytes := by
  simp [Base64.decodeSized, Base64.decode?_encode]

/-- A sealed value as text, each part in base64. -/
structure Box where
  nonce : Text
  tag : Text
  ciphertext : Text
  deriving DecidableEq, Repr

namespace Box

def ofSealed (parts : Sealed) : Box :=
  ⟨Base64.encode parts.nonce, Base64.encode parts.tag, Base64.encode parts.ciphertext⟩

/-- The parts of a box, if all of them are base64 and nonce and tag have the right lengths. -/
def parts? (box : Box) : Option Sealed := do
  let nonce ← (Base64.decodeSized (some nonceLength) box.nonce).toOption
  let tag ← (Base64.decodeSized (some tagLength) box.tag).toOption
  let ciphertext ← Base64.decode? box.ciphertext
  return ⟨nonce, tag, ciphertext⟩

/-- Seals a plaintext into a box. -/
def sealWith (cipher : Cipher) (key ad plaintext : Bytes) : Draw Box := do
  let parts ← Sealed.sealWith cipher key ad plaintext
  return ofSealed parts

/-- Seals a plaintext into a box with the cipher of the given name, under a key of any length. -/
def sealNamed (name : String) (key ad plaintext : Bytes) : Attempt Box := do
  let parts ← Sealed.sealNamed name key ad plaintext
  return ofSealed parts

/-- The plaintext in a box, if it opens. -/
def openWith? (box : Box) (cipher : Cipher) (key ad : Bytes) : Option Bytes := do
  let parts ← box.parts?
  parts.openWith? cipher key ad

/-- The plaintext in a box that was sealed with the cipher of the given name. -/
def openNamed (box : Box) (name : String) (key ad : Bytes) : Except Error Bytes :=
  match box.parts? with
  | none => .error .decryption
  | some parts => parts.openNamed name key ad

/-! ### JSON -/

def ofJson : Json → Checked Box :=
  Json.asRecord fun members =>
    Box.mk <$> members.required "nonce" Json.asText
      <*> members.required "tag" Json.asText
      <*> members.required "ciphertext" Json.asText

def toJson (box : Box) : Json :=
  .obj [("nonce", .str box.nonce), ("tag", .str box.tag), ("ciphertext", .str box.ciphertext)]

theorem parts?_ofSealed {parts : Sealed} (hn : parts.nonce.length = nonceLength)
    (ht : parts.tag.length = tagLength) : (ofSealed parts).parts? = some parts := by
  have n := Base64.decodeSized_encode parts.nonce
  have t := Base64.decodeSized_encode parts.tag
  rw [hn] at n
  rw [ht] at t
  simp [parts?, ofSealed, n, t, Base64.decode?_encode, Except.toOption]

theorem openWith?_ofSealed {parts : Sealed} (hn : parts.nonce.length = nonceLength)
    (ht : parts.tag.length = tagLength) (cipher : Cipher) (key ad : Bytes) :
    (ofSealed parts).openWith? cipher key ad = parts.openWith? cipher key ad := by
  rw [openWith?, parts?_ofSealed hn ht]
  rfl

theorem ofJson_toJson (box : Box) : ofJson box.toJson = .accepted box := rfl

end Box

end PasswordVault
