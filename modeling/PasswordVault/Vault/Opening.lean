import PasswordVault.Phrase.Basic
import PasswordVault.Vault.Basic
import PasswordVault.Vault.Payload

/-!
# Opening a vault

A vault opens with its password, with the key that the password gave before, or with its recovery
phrase. A secret that does not fit is refused without saying why; what is authentic but no payload
is reported as such.

* `unlock`, `unlockWithKey` and `unlockWithPhrase` give the payload and what opened it.
-/

namespace PasswordVault

/-- The value, or the refusal of a secret where there is none. -/
def demand {α : Type} (credential : Credential) : Option α → Except Error α
  | some a => .ok a
  | none => .error (.authentication credential)

namespace Vault

/-- The payload under the password key, which came from the given kind of secret. -/
def openPayload (vault : Vault) (credential : Credential) (key : Bytes) : Except Error Payload := do
  let plaintext ← demand credential (vault.openSlot? .primary key)
  Payload.ofBytes plaintext

/-- The payload and the password key of a vault that the password opens. -/
def unlock (given : Given Vault) (password : Text) : Except Error (Payload × Bytes) := do
  let vault ← accept given
  let key ← vault.kdf.passwordKey password
  let payload ← vault.openPayload .password key
  return (payload, key)

/-- The payload of a vault that the password key opens. -/
def unlockWithKey (given : Given Vault) (key : Bytes) : Except Error Payload := do
  let vault ← accept given
  vault.openPayload .key key

/-- The payload and the seed of a vault that the recovery phrase opens. -/
def unlockWithPhrase (given : Given Vault) (phrase : Text) : Except Error (Payload × Bytes) := do
  let vault ← accept given
  let seed ← Phrase.recover phrase
  match vault.openSlot? .recovery (recoveryKey seed) with
  | none => throw .phrase
  | some plaintext =>
    let payload ← Payload.ofBytes plaintext
    return (payload, seed)

end Vault

end PasswordVault
