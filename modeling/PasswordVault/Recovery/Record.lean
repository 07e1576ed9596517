import PasswordVault.Recovery.BackupKey
import PasswordVault.Recovery.Bundle

/-!
# Recovery with a backup key

The seed is sealed under a backup key, which is random already and is not stretched. A record holds
the box and the fingerprint of the key.
-/

namespace PasswordVault

/-- What is stored for recovery with a backup key: the sealed seed, the fingerprint of the key and
when the seed was sealed. -/
structure Record where
  box : Box
  keyHash : Text
  created : Timestamp
  deriving DecidableEq, Repr

namespace Record

def ofJson : Json → Checked Record :=
  Json.asRecord fun members =>
    Record.mk <$> members.required ⟨"encryptedSeed", "encrypted_seed"⟩ Box.ofJson
      <*> members.required ⟨"keyHash", "key_hash"⟩ Json.asText
      <*> members.required "created" Json.asTimestamp

def toJson (record : Record) : Json :=
  .obj [("encryptedSeed", record.box.toJson), ("keyHash", .str record.keyHash),
    ("created", .str record.created.toText)]

/-- The associated data of the sealed seed. -/
def associatedData : Bytes :=
  Utf8.encode "sealed-vault:hardware-seed"

/-- Whether a byte string is as long as a backup key. -/
def checkKey (key : Bytes) : Except Error Unit :=
  if key.length = BackupKey.length then .ok () else .error (.backupKeyLength key.length)

/-- Seals a seed under a backup key. -/
def setup (now : Instant) (seed key : Bytes) : Attempt Record := do
  Attempt.ofExcept (checkSeed seed)
  Attempt.ofExcept (checkKey key)
  let box ← Box.sealWith .aesGcm key associatedData seed
  return ⟨box, BackupKey.fingerprint key, Timestamp.ofInstant now⟩

/-- The seed that is sealed in a box under a typed backup key. -/
def recover (text : Text) (given : Given Box) : Except Error Bytes := do
  let key ← BackupKey.decode text
  let box ← Box.accept given
  match box.openWith? .aesGcm key associatedData with
  | some seed => return seed
  | none => throw (.authentication .backupKey)

end Record

end PasswordVault
