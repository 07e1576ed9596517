import PasswordVault.Settings
import PasswordVault.Vault.Opening

/-!
# Sealing a vault

Whatever changes a vault seals all its boxes anew, with fresh nonces and the same plaintext under
both keys, so that password and recovery phrase never lead to different payloads. A vault that is
created or gets another password takes cipher, costs and a fresh salt from the settings; one that
gets another payload keeps its own.

* `create` and `createWith` make a vault, `update` and `updateWithKey` change its payload,
  `changePassword` its password.
-/

namespace PasswordVault.Vault

/-- What is sealed in a vault: the text of the payload and the seed of the recovery key. -/
structure Contents where
  plaintext : Bytes
  seed : Bytes

/-- Seals the contents under the password key and the recovery key. -/
def sealContents (cipher : Cipher) (kdf : Kdf) (key : Bytes) (contents : Contents)
    (created updated : Timestamp) : Draw Vault := do
  let primary ← Box.sealWith cipher key Slot.primary.associatedData contents.plaintext
  let recovery ←
    Box.sealWith cipher (recoveryKey contents.seed) Slot.recovery.associatedData contents.plaintext
  let wrappedSeed ← Box.sealWith cipher key Slot.seed.associatedData contents.seed
  return ⟨cipher, created, updated, kdf, primary, recovery, wrappedSeed⟩

/-- Seals the contents under a password, with a fresh salt and by the settings. The salt is drawn
before the password is looked at. -/
def sealNew (settings : Settings) (now : Instant) (password : Text) (contents : Contents)
    (created : Timestamp) : Attempt Vault := do
  let salt ← draw settings.saltLength
  let key ← Attempt.ofExcept (stretchPassword settings.costs password salt)
  sealContents settings.cipher ⟨Base64.encode salt, settings.costs⟩ key contents created
    (Timestamp.ofInstant now)

/-- A new vault with the empty payload, and its recovery phrase. -/
def create (settings : Settings) (now : Instant) (password : Text) :
    Attempt (Vault × String) := do
  let (phrase, seed) ← Phrase.generate
  let vault ← sealNew settings now password ⟨Payload.empty.toBytes, seed⟩ (Timestamp.ofInstant now)
  return (vault, phrase)

/-- The text of a payload that was handed over, as it is sealed. -/
def plaintextOf (given : Given Payload) : Except Error Bytes := do
  let payload ← Payload.accept given
  let text ← payload.write
  return Utf8.encode text

/-- A new vault with a payload and the seed of an earlier vault, whose recovery phrase stays
valid. -/
def createWith (settings : Settings) (now : Instant) (password : Text) (payload : Given Payload)
    (seed : Bytes) : Attempt Vault := do
  Attempt.ofExcept (checkSeed seed)
  let plaintext ← Attempt.ofExcept (plaintextOf payload)
  sealNew settings now password ⟨plaintext, seed⟩ (Timestamp.ofInstant now)

/-- The vault with another payload, sealed under the password key, which came from the given kind of
secret. -/
def updateUnder (vault : Vault) (now : Instant) (credential : Credential) (key : Bytes)
    (payload : Given Payload) : Attempt Vault := do
  let seed ← Attempt.ofExcept (demand credential (vault.openSeed? key))
  let plaintext ← Attempt.ofExcept (plaintextOf payload)
  sealContents vault.cipher vault.kdf key ⟨plaintext, seed⟩ vault.created (Timestamp.ofInstant now)

/-- The vault with another payload, for whom the password opens the vault. -/
def update (given : Given Vault) (now : Instant) (password : Text) (payload : Given Payload) :
    Attempt Vault := do
  let vault ← Attempt.ofExcept (accept given)
  let key ← Attempt.ofExcept (vault.kdf.passwordKey password)
  vault.updateUnder now .password key payload

/-- The vault with another payload, for whom the password key opens the vault. -/
def updateWithKey (given : Given Vault) (now : Instant) (key : Bytes) (payload : Given Payload) :
    Attempt Vault := do
  let vault ← Attempt.ofExcept (accept given)
  vault.updateUnder now .key key payload

/-- What is sealed in a vault, for whom the password opens both boxes under its key. -/
def contents (vault : Vault) (password : Text) : Except Error Contents := do
  let key ← vault.kdf.passwordKey password
  let plaintext ← demand .password (vault.openSlot? .primary key)
  let seed ← demand .password (vault.openSeed? key)
  return ⟨plaintext, seed⟩

/-- The vault under another password, sealed by the settings; payload, seed and creation time
stay. -/
def changePassword (settings : Settings) (given : Given Vault) (now : Instant)
    (password next : Text) : Attempt Vault := do
  let vault ← Attempt.ofExcept (accept given)
  let contents ← Attempt.ofExcept (vault.contents password)
  sealNew settings now next contents vault.created

end PasswordVault.Vault
