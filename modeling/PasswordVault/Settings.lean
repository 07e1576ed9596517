import PasswordVault.Aead.Cipher
import PasswordVault.Text.Case
import PasswordVault.Vault.Key

/-!
# Settings

The settings for new vaults: the costs of the password key, the length of its salt, the cipher, and
for how long a remembered key may stand in for the password. They are read from named values or from
the variables of an environment, where an empty variable counts as absent.

* `Settings.ofJson` and `Settings.ofEnvironment` read settings.
-/

namespace PasswordVault

namespace Cipher

def settingName : Cipher → String
  | .aesGcm => "aesgcm"
  | .chaCha => "chacha20"

/-- The cipher with a name in settings, in any case. -/
def ofSettingName (text : Text) : Checked Cipher :=
  let name := text.mapRuns Text.lower
  if name = .whole aesGcm.settingName then .accepted aesGcm
  else if name = .whole chaCha.settingName then .accepted chaCha
  else .refuse (.rule (.cipherBackend name))

def readSetting (v : Json) : Checked Cipher :=
  v.asText.andThen ofSettingName

end Cipher

/-- The settings for new vaults: how the password key is stretched, the cipher, for how many days a
remembered key may stand in for the password, and how many derivations may run side by side. -/
structure Settings where
  costs : Argon2.Costs
  saltLength : Nat
  cipher : Cipher
  unlockDays : Binary64
  workers : Nat
  deriving DecidableEq, Repr

namespace Settings

def defaults : Settings where
  costs := ⟨65536, 3, 4⟩
  saltLength := 16
  cipher := .aesGcm
  unlockDays := .ofInt 7
  workers := 4

/-- Reads the fields, each on its own. -/
def readFields (members : Json.Members) : Checked Settings :=
  (fun memory passes lanes saltLength cipher unlockDays workers =>
      ⟨⟨memory, passes, lanes⟩, saltLength, cipher, unlockDays, workers⟩)
    <$> members.optional "memory_cost" readMemory defaults.costs.memory
    <*> members.optional "time_cost" readPasses defaults.costs.passes
    <*> members.optional "parallelism" readLanes defaults.costs.lanes
    <*> members.optional "salt_length" (Json.asNatural 16 64) defaults.saltLength
    <*> members.optional "cipher_backend" Cipher.readSetting defaults.cipher
    <*> members.optional "biometric_max_age_days" Json.asPositive defaults.unlockDays
    <*> members.optional "kdf_workers" (Json.asNatural 1 64) defaults.workers

/-- Reads settings; the memory is looked at once all fields are right. -/
def ofJson : Json → Checked Settings :=
  Json.asRecord fun members =>
    (readFields members).andThen fun settings =>
      (fun _ => settings) <$> enoughMemory "memory_cost" settings.costs

/-- The variables of an environment and the fields they set. -/
def environmentFields : List (String × String) := [
  ("VAULT_KDF_MEMORY_COST", "memory_cost"),
  ("VAULT_KDF_TIME_COST", "time_cost"),
  ("VAULT_KDF_PARALLELISM", "parallelism"),
  ("VAULT_SALT_LENGTH", "salt_length"),
  ("VAULT_CIPHER_BACKEND", "cipher_backend"),
  ("VAULT_BIOMETRIC_MAX_AGE_DAYS", "biometric_max_age_days"),
  ("VAULT_KDF_WORKERS", "kdf_workers")]

/-- Reads settings from an environment, which gives each variable its text. -/
def ofEnvironment (textOf : String → Text) : Checked Settings :=
  ofJson <| .obj <| environmentFields.filterMap fun (name, field) =>
    if textOf name = .whole "" then none else some (field, .str (textOf name))

end Settings

end PasswordVault
