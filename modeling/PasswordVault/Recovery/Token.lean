import PasswordVault.Entropy
import PasswordVault.Hash.Sha256
import PasswordVault.Text.Hex
import PasswordVault.Text.Quoted
import PasswordVault.Text.Utf8

/-!
# Recovery sessions

Whoever opens a recovery session gets a random token, of which only the digest is kept. A session is
opened for one of three methods.
-/

namespace PasswordVault

namespace Token

/-- The length of a token in bytes. -/
def length : Nat := 32

def create : Draw String := do
  let bytes ← draw length
  return Hex.encode bytes

/-- The digest that is kept of a token. -/
def hash (token : Text) : Except Error String := do
  let bytes ← Utf8.encodeText token
  return Hex.encode (Sha256.digest bytes)

/-- Whether a token has a digest; the two are compared in their UTF-8 forms. -/
def verify (token digest : Text) : Except Error Bool := do
  let found ← hash token
  let stored ← Utf8.encodeText digest
  return Utf8.encode found = stored

end Token

/-- The ways to recover a seed. -/
inductive RecoveryMethod where
  | phrase
  | contacts
  | backupKey
  deriving DecidableEq, Repr

namespace RecoveryMethod

def name : RecoveryMethod → String
  | phrase => "bip39"
  | contacts => "social"
  | backupKey => "hardware"

def ofName (text : Text) : Except Error RecoveryMethod :=
  match [phrase, contacts, backupKey].find? fun method => .whole method.name = text with
  | some method => .ok method
  | none => .error (.unknownMethod (String.ofList text.quoted))

end RecoveryMethod

end PasswordVault
