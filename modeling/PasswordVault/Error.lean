import PasswordVault.Fault

/-!
# Errors

Every way in which an operation of the vault can fail, as a cause. A secret that does not open what
it was presented for is reported by one constructor for each kind of secret, so that the answer
never tells what was wrong. `Error.message` words the causes; faults in an input, unreadable text
and values that cannot be written have no wording of their own.
-/

namespace PasswordVault

/-- The kinds of secret that a caller presents. -/
inductive Credential where
  | password
  | key
  | backupKey
  | recoveryShard
  deriving DecidableEq, Repr

/-- Why Argon2 rejects its settings. -/
inductive CostRejection where
  | memory
  | time
  | lanes
  | manyLanes
  | allocation
  deriving DecidableEq, Repr

/-- The causes of failure. `costRange` is about settings that are no words of 32 bits, `cost` about
those that Argon2 rejects; `unwritable` and `tooDeep` are about values without a JSON text, and
`unencodable` about a text without a UTF-8 form, because a surrogate stands alone in it. -/
inductive Error where
  -- arithmetic and sharing of secrets
  | divisionByZero
  | notAnElement
  | thresholdTooSmall
  | tooFewShares
  | tooManyShares
  | emptySecret
  | noShares
  | shareIndex
  | shareLength
  | duplicateShare
  | shareFormat
  | shareVersion (version : Nat)
  -- encodings and sealing
  | base64
  | byteCount (expected found : Int)
  | keyLength (found : Nat)
  | unknownCipher (name : String)
  | decryption
  -- keys and their settings
  | saltLength (found : Nat)
  | seedLength (found : Nat)
  | backupKeyLength (found : Nat)
  | costRange
  | cost (rejection : CostRejection)
  -- secrets that do not open what they were presented for
  | phrase
  | authentication (credential : Credential)
  -- the stored forms and the requests for recovery
  | vaultFormat
  | tooFewContacts
  | tooManyContacts
  | thresholdRange (greatest : Nat)
  | tooFewPieces
  | duplicateEmail
  | unknownMethod (quoted : String)
  -- the unlock window
  | windowNotANumber
  | windowTooLong
  -- inputs and texts
  | invalid (faults : List Fault)
  | notJson
  | unwritable
  | tooDeep
  | notAscii
  | unencodable
  deriving DecidableEq, Repr

/-- The name of a secret in error texts. -/
def Credential.label : Credential → String
  | .password => "password"
  | .key => "key"
  | .backupKey => "backup key"
  | .recoveryShard => "recovery shard"

def CostRejection.message : CostRejection → String
  | .memory => "Memory cost is too small"
  | .time => "Time cost is too small"
  | .lanes => "Too few lanes"
  | .manyLanes => "Too many lanes"
  | .allocation => "Memory allocation error"

def Error.message : Error → String
  | .divisionByZero => "Division by zero in GF(256)"
  | .thresholdTooSmall => "Threshold must be at least 2"
  | .tooFewShares => "Total shares must be >= threshold"
  | .tooManyShares => "Maximum 255 shares supported"
  | .emptySecret => "Secret must not be empty"
  | .noShares => "No shares provided"
  | .shareIndex => "Invalid share index"
  | .shareLength => "Share length mismatch"
  | .duplicateShare => "Duplicate share indices"
  | .shareFormat => "Invalid share format"
  | .shareVersion version => s!"Unsupported share version: {version}"
  | .base64 => "Invalid base64 data"
  | .byteCount expected found => s!"Expected {expected} bytes, got {found}"
  | .keyLength found => s!"Key must be 32 bytes, got {found}"
  | .unknownCipher name => s!"Unsupported cipher: {name}"
  | .decryption => "Decryption failed"
  | .saltLength found => s!"Salt must be at least 8 bytes, got {found}"
  | .seedLength found => s!"Seed must be 32 bytes, got {found}"
  | .backupKeyLength found => s!"Backup key must be 32 bytes, got {found}"
  | .cost rejection => rejection.message
  | .phrase => "Invalid recovery phrase"
  | .authentication credential => s!"Invalid {credential.label}"
  | .vaultFormat => "Invalid vault format"
  | .tooFewContacts => "Need at least 3 contacts for social recovery"
  | .tooManyContacts => "Maximum 10 contacts allowed"
  | .thresholdRange greatest => s!"Threshold must be between 2 and {greatest}"
  | .tooFewPieces => "Need at least 2 shards to recover"
  | .duplicateEmail => "Duplicate contact email"
  | .unknownMethod quoted => s!"{quoted} is not a valid RecoveryMethodType"
  | .windowNotANumber => "cannot convert float NaN to integer"
  | .tooDeep => "Maximum serialization depth exceeded"
  | .notAnElement | .costRange | .windowTooLong | .invalid _ | .notJson | .unwritable | .notAscii
  | .unencodable =>
    ""

/-- The value of a checked input, or its faults as a failure. -/
def Checked.toExcept {α : Type} : Checked α → Except Error α
  | .accepted a => .ok a
  | .refused faults => .error (.invalid faults)

end PasswordVault
