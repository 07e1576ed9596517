import PasswordVault.Error
import PasswordVault.Json.Given
import PasswordVault.Json.Printer
import PasswordVault.Vault.Box
import PasswordVault.Vault.Key

/-!
# Vaults

A vault is what is stored and passed around: three boxes and what is needed to open them. The
payload is sealed twice, under the password key and under the recovery key, and the seed of the
recovery key is sealed under the password key. Each box is bound to its slot by the associated data.

* `Vault.ofJson` and `Vault.toJson` read and write the stored form, `Vault.exportText` lays it out
  as text;
* `Vault.openSlot?` opens a box.
-/

namespace PasswordVault

/-- A password vault: the payload sealed under the password key and under the recovery key, and the
seed of the latter sealed under the former. -/
structure Vault where
  cipher : Cipher
  created : Timestamp
  updated : Timestamp
  kdf : Kdf
  primary : Box
  recovery : Box
  wrappedSeed : Box
  deriving DecidableEq, Repr

/-- The three places for boxes in a vault. -/
inductive Slot where
  | primary
  | recovery
  | seed
  deriving DecidableEq, Repr

def Slot.name : Slot → String
  | .primary => "primary"
  | .recovery => "recovery"
  | .seed => "seed"

/-- The associated data of what is sealed for a slot. -/
def Slot.associatedData (slot : Slot) : Bytes :=
  Utf8.encode ("sealed-vault:1:" ++ slot.name)

namespace Vault

def box (vault : Vault) : Slot → Box
  | .primary => vault.primary
  | .recovery => vault.recovery
  | .seed => vault.wrappedSeed

/-- The plaintext in a slot, if the key opens it. -/
def openSlot? (vault : Vault) (slot : Slot) (key : Bytes) : Option Bytes :=
  (vault.box slot).openWith? vault.cipher key slot.associatedData

/-- The seed, if the key opens its slot and what is there has the length of a seed. -/
def openSeed? (vault : Vault) (key : Bytes) : Option Bytes := do
  let seed ← vault.openSlot? .seed key
  if seed.length = seedLength then return seed else none

/-! ### The stored form -/

def format : String := "sealed-vault"

def readFormat : Json → Checked Unit :=
  Json.asConstant fun text => if text = format then some () else none

def ofJson : Json → Checked Vault :=
  Json.asRecord fun members =>
    (fun _ _ => Vault.mk)
      <$> members.optional "version" Json.asOne ()
      <*> members.optional "format" readFormat ()
      <*> members.optional "cipher" (Json.asConstant Cipher.ofName?) .aesGcm
      <*> members.required "created" Json.asTimestamp
      <*> members.required "updated" Json.asTimestamp
      <*> members.required "kdf" Kdf.ofJson
      <*> members.required "primary" Box.ofJson
      <*> members.required "recovery" Box.ofJson
      <*> members.required ⟨"wrappedSeed", "wrapped_seed"⟩ Box.ofJson

def toJson (vault : Vault) : Json :=
  .obj [("version", .int 1), ("format", .str format), ("cipher", .str vault.cipher.name),
    ("created", .str vault.created.toText), ("updated", .str vault.updated.toText),
    ("kdf", vault.kdf.toJson), ("primary", vault.primary.toJson),
    ("recovery", vault.recovery.toJson), ("wrappedSeed", vault.wrappedSeed.toJson)]

/-- The vault that was handed over. -/
def accept (given : Given Vault) : Except Error Vault :=
  match given.read ofJson with
  | .accepted vault => .ok vault
  | .refused _ => .error .vaultFormat

/-- Whether what was handed over is a vault; nothing is decrypted. -/
def isVault (given : Given Vault) : Bool :=
  (given.read ofJson).toOption.isSome

/-- The text of a vault for a file of its own, if documents hold what is in it. -/
def exportText (given : Given Vault) : Except Error String := do
  let vault ← accept given
  if vault.toJson.isWritable then return vault.toJson.toLaidOutText else throw .unwritable

/-- The vault with other costs and, if one is given, another salt. -/
def withKdf (vault : Vault) (costs : Argon2.Costs) (salt : Option Text) : Vault :=
  { vault with kdf := ⟨salt.getD vault.kdf.salt, costs⟩ }

end Vault

end PasswordVault
