import PasswordVault.Recovery.Contact
import PasswordVault.Share.Text
import PasswordVault.Vault.Basic

/-!
# Recovery with the help of contacts

The seed is split into one share for each contact, any `threshold` of which give it back, and each
share is sealed for its contact. A bundle is what is stored of it all: nobody but a contact with the
right address opens a shard of it.

* `Bundle.setup` makes a bundle for a seed, `Shard.openFor` opens a shard, `recoverSeed` puts shares
  together;
* `Bundle.ofJson` and `Bundle.toJson` read and write the stored form.
-/

namespace PasswordVault

/-- The text of a share, sealed for a contact. -/
structure Shard where
  contact : Contact
  shareIndex : Nat
  box : Box
  deriving DecidableEq, Repr

/-- What is stored for recovery with the help of contacts: the sealed shares, of which `threshold`
give the seed back, and when the seed was split. -/
structure Bundle where
  recoveryId : Text
  threshold : Int
  totalShares : Int
  shards : List Shard
  created : Timestamp
  deriving DecidableEq, Repr

/-! ### The stored form -/

namespace Shard

/-- Reads a shard; the address is taken as it stands. -/
def ofJson : Json → Checked Shard :=
  Json.asRecord fun members =>
    (fun email name shareIndex box => ⟨⟨email, name⟩, shareIndex, box⟩)
      <$> members.required "email" Json.asText
      <*> members.optional "name" Json.asText (.whole "")
      <*> members.required ⟨"shareIndex", "share_index"⟩ (Json.asNatural 1 Share.maxShares)
      <*> members.required ⟨"encryptedShard", "encrypted_shard"⟩ Box.ofJson

def toJson (shard : Shard) : Json :=
  .obj [("email", .str shard.contact.email), ("name", .str shard.contact.name),
    ("shareIndex", .int shard.shareIndex), ("encryptedShard", shard.box.toJson)]

end Shard

namespace Bundle

def ofJson : Json → Checked Bundle :=
  Json.asRecord fun members =>
    Bundle.mk <$> members.required ⟨"recoveryId", "recovery_id"⟩ Json.asText
      <*> members.required "threshold" Json.asInteger
      <*> members.required ⟨"totalShares", "total_shares"⟩ Json.asInteger
      <*> members.required "contacts" (Json.asList Shard.ofJson)
      <*> members.required "created" Json.asTimestamp

def toJson (bundle : Bundle) : Json :=
  .obj [("recoveryId", .str bundle.recoveryId), ("threshold", .int bundle.threshold),
    ("totalShares", .int bundle.totalShares), ("contacts", .arr (bundle.shards.map Shard.toJson)),
    ("created", .str bundle.created.toText)]

end Bundle

/-! ### Splitting the seed -/

def fewestContacts : Nat := 3

def mostContacts : Nat := 10

/-- The length of a recovery id in bytes. -/
def recoveryIdLength : Nat := 16

/-- How many shares give the seed back where nothing is said. -/
def defaultThreshold : Int := 3

/-- Whether there are neither too few nor too many contacts. -/
def checkContactCount (count : Nat) : Except Error Unit :=
  if count < fewestContacts then .error .tooFewContacts
  else if count > mostContacts then .error .tooManyContacts
  else .ok ()

/-- Whether the threshold takes two contacts or more and leaves one to spare. -/
def checkThreshold (count : Nat) (threshold : Int) : Except Error Unit :=
  if 2 ≤ threshold ∧ threshold ≤ (count : Int) - 1 then .ok ()
  else .error (.thresholdRange (count - 1))

/-- The contacts that were handed over; the first that is refused decides. -/
def acceptContacts (given : List (Given Contact)) : Except Error (List Contact) :=
  given.mapM fun contact => (contact.read Contact.ofJson).toExcept

/-- Whether no two contacts have one address. -/
def checkEmails (contacts : List Contact) : Except Error Unit :=
  if (contacts.map Contact.email).Nodup then .ok () else .error .duplicateEmail

/-- The contacts of a well-formed request to split a seed. -/
def checkRequest (seed : Bytes) (given : List (Given Contact)) (threshold : Int) :
    Except Error (List Contact) := do
  checkSeed seed
  checkContactCount given.length
  checkThreshold given.length threshold
  let contacts ← acceptContacts given
  checkEmails contacts
  return contacts

/-- Seals a share for a contact. -/
def Shard.sealFor (recoveryId : Text) (contact : Contact) (share : Share) : Attempt Shard := do
  let key ← Attempt.ofExcept (contactKey recoveryId contact.email)
  let text ← Attempt.ofExcept share.encode
  let box ← Box.sealWith .aesGcm key [] (Utf8.encode text)
  return ⟨contact, share.index.toNat, box⟩

/-- Splits a seed into a sealed share for each contact. -/
def Bundle.setup (now : Instant) (seed : Bytes) (given : List (Given Contact)) (threshold : Int) :
    Attempt Bundle := do
  let contacts ← Attempt.ofExcept (checkRequest seed given threshold)
  let id ← draw recoveryIdLength
  let recoveryId := Hex.encode id
  let shares ← Share.split seed contacts.length threshold
  let shards ← (List.zip contacts shares).mapM fun (contact, share) =>
    Shard.sealFor recoveryId contact share
  return ⟨recoveryId, threshold, contacts.length, shards, Timestamp.ofInstant now⟩

/-! ### Putting the seed together -/

def Box.accept (given : Given Box) : Except Error Box :=
  (given.read Box.ofJson).toExcept

/-- A text of ASCII characters only. -/
def asciiText (bytes : Bytes) : Except Error String :=
  if bytes.all fun b => b < 128 then .ok (String.ofList (bytes.map fun b => Char.ofNat b.toNat))
  else .error .notAscii

/-- The text of the share that is sealed in a box for the owner of an address. -/
def Shard.openFor (recoveryId email : Text) (given : Given Box) : Except Error String := do
  let box ← Box.accept given
  let key ← contactKey recoveryId email
  match box.openWith? .aesGcm key [] with
  | some plaintext => asciiText plaintext
  | none => throw (.authentication .recoveryShard)

/-- A share, or its text. -/
inductive Piece where
  | share (share : Share)
  | text (text : Text)

def Piece.read : Piece → Except Error Share
  | .share s => .ok s
  | .text s => Share.decode s

/-- The seed that two shares or more give back; with fewer than the threshold it is a wrong one. -/
def recoverSeed (pieces : List Piece) : Except Error Bytes := do
  let shares ← pieces.mapM Piece.read
  if shares.length < 2 then throw .tooFewPieces
  Share.combine shares

end PasswordVault
