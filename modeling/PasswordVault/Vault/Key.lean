import PasswordVault.Hash.Argon2
import PasswordVault.Hash.Mac
import PasswordVault.Json.Field
import PasswordVault.Phrase.Basic
import PasswordVault.Text.Base64

/-!
# The keys of a vault

The password key is stretched from the password with Argon2id; its salt and its costs are stored
beside what it seals. The recovery key follows from the seed of the vault alone, so that a recovery
phrase needs nothing stored.

* `stretchSecret` and `stretchPassword` are the derivation, `Kdf` the stored settings and
  `Kdf.passwordKey` the key they give;
* `recoveryKey` is the key that a seed gives, whatever its length, `seedKey` checks the length.
-/

namespace PasswordVault

def leastSaltLength : Nat := 8

/-- The key stretched from a secret, under a salt that is long enough and costs that are
accepted. -/
def stretchSecret (costs : Argon2.Costs) (secret salt : Bytes) : Except Error Bytes :=
  if salt.length < leastSaltLength then .error (.saltLength salt.length)
  else Argon2.derive costs secret salt

/-- The key stretched from a password, whose UTF-8 form is asked for once the salt is long
enough. -/
def stretchPassword (costs : Argon2.Costs) (password : Text) (salt : Bytes) : Except Error Bytes :=
  if salt.length < leastSaltLength then .error (.saltLength salt.length)
  else do
    let secret ← Utf8.encodeText password
    Argon2.derive costs secret salt

def recoveryKey (seed : Bytes) : Bytes :=
  hkdf [] seed (Utf8.encode "sealed-vault-recovery-v1")

/-- Whether a byte string is as long as a seed. -/
def checkSeed (seed : Bytes) : Except Error Unit :=
  if seed.length = seedLength then .ok () else .error (.seedLength seed.length)

/-- The key that a seed of the right length gives. -/
def seedKey (seed : Bytes) : Except Error Bytes := do
  checkSeed seed
  return recoveryKey seed

/-! ### Bounds on the costs -/

/-- Reads the memory in KiB. -/
def readMemory : Json → Checked Int := Json.asBounded 8 4194304

def readPasses : Json → Checked Int := Json.asBounded 1 100

def readLanes : Json → Checked Int := Json.asBounded 1 255

/-- Costs with at least eight KiB for each lane; the complaint calls the memory by the given
name. -/
def enoughMemory (name : String) (costs : Argon2.Costs) : Checked Unit :=
  if costs.memory < 8 * costs.lanes then
    .refuse (.rule (.memoryPerLane name costs.memory costs.lanes))
  else .accepted ()

/-! ### Stored settings -/

/-- The settings that a password key is stretched with; the salt is in base64. -/
structure Kdf where
  salt : Text
  costs : Argon2.Costs
  deriving DecidableEq, Repr

namespace Kdf

/-- The only derivation there is. -/
def algorithm : String := "argon2id"

def readAlgorithm : Json → Checked Unit :=
  Json.asConstant fun text => if text = algorithm then some () else none

/-- Reads the fields, each on its own. -/
def readFields (members : Json.Members) : Checked Kdf :=
  (fun _ salt memory passes lanes => ⟨salt, memory, passes, lanes⟩)
    <$> members.optional "algorithm" readAlgorithm ()
    <*> members.required "salt" Json.asText
    <*> members.required ⟨"memoryCost", "memory_cost"⟩ readMemory
    <*> members.required ⟨"timeCost", "time_cost"⟩ readPasses
    <*> members.required "parallelism" readLanes

/-- Reads stored settings; the memory is looked at once all fields are right. -/
def ofJson : Json → Checked Kdf :=
  Json.asRecord fun members =>
    (readFields members).andThen fun kdf => (fun _ => kdf) <$> enoughMemory "memoryCost" kdf.costs

def toJson (kdf : Kdf) : Json :=
  .obj [("algorithm", .str algorithm), ("salt", .str kdf.salt),
    ("memoryCost", .int kdf.costs.memory), ("timeCost", .int kdf.costs.passes),
    ("parallelism", .int kdf.costs.lanes)]

/-- The key that a password gives; whatever is wrong with the settings counts as a wrong password,
apart from costs that are no words. A password without a UTF-8 form is reported as such. -/
def passwordKey (kdf : Kdf) (password : Text) : Except Error Bytes :=
  match Base64.decode? kdf.salt with
  | none => .error (.authentication .password)
  | some salt =>
    match stretchPassword kdf.costs password salt with
    | .ok key => .ok key
    | .error .costRange => .error .costRange
    | .error .unencodable => .error .unencodable
    | .error _ => .error (.authentication .password)

end Kdf

end PasswordVault
