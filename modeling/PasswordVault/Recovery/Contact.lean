import PasswordVault.Hash.Mac
import PasswordVault.Json.Given
import PasswordVault.Text.Case
import PasswordVault.Text.Hex
import PasswordVault.Text.Utf8

/-!
# Recovery contacts

A contact is a person who keeps a part of the seed, known by an address. Addresses are compared in
their normal form, without blanks around them and in lower case. What a contact keeps is sealed
under a key that follows from the address and from the recovery id.
-/

namespace PasswordVault

/-- The normal form of an address. Surrogates have no case, so that each run of characters has its
lower-case form by itself. -/
def normalizeEmail (email : Text) : Text :=
  email.trimmed.mapRuns Text.lower

/-- A recovery id as bytes: the bytes that it writes in hexadecimal, or else its text. -/
def recoveryIdBytes (recoveryId : Text) : Except Error Bytes :=
  match Hex.decode? recoveryId with
  | some bytes => .ok bytes
  | none => Utf8.encodeText recoveryId

/-- The key of a contact's part for a recovery id. -/
def contactKey (recoveryId email : Text) : Except Error Bytes := do
  let salt ← recoveryIdBytes recoveryId
  let material ← Utf8.encodeText (normalizeEmail email)
  return hkdf salt material (Utf8.encode "sealed-vault-contact-shard-v1")

/-- A contact, with the address in its normal form and a name that may be empty. -/
structure Contact where
  email : Text
  name : Text
  deriving DecidableEq, Repr

namespace Contact

/-- The normal form of an address that is not blank. -/
def checkEmail (email : Text) : Checked Text :=
  if normalizeEmail email = .whole "" then .refuse (.rule .emptyEmail)
  else .accepted (normalizeEmail email)

def ofJson : Json → Checked Contact :=
  Json.asRecord fun members =>
    Contact.mk <$> members.required "email" (fun v => v.asText.andThen checkEmail)
      <*> members.optional "name" Json.asText (.whole "")

end Contact

end PasswordVault
