import PasswordVault.Entropy
import PasswordVault.Hash.Sha256
import PasswordVault.Text.Base32
import PasswordVault.Text.Base64
import PasswordVault.Text.Blank
import PasswordVault.Text.Case
import PasswordVault.Text.Utf8

/-!
# Backup keys

A backup key is 32 random bytes that are written down or put on a token, in base32 and in groups of
four characters with dashes between them. It is typed in any case, with any blanks and dashes. Only
its fingerprint is stored.

* `BackupKey.format` writes a key, `BackupKey.decode?` reads what was typed;
* `BackupKey.hasFingerprint` compares what was typed with a stored fingerprint.
-/

namespace PasswordVault.BackupKey

def length : Nat := 32

/-- The characters in groups of `size`, with dashes between the groups; `left` is what is left of
the group at hand. -/
def grouped (size : Nat) : (left : Nat) → List Char → List Char
  | _, [] => []
  | 0, c :: rest => '-' :: c :: grouped size (size - 1) rest
  | left + 1, c :: rest => c :: grouped size left rest

def format (key : Bytes) : String :=
  String.ofList (grouped 4 4 (Base32.encodeChars key))

/-- Whether a character separates groups. -/
def isSeparator (c : Char) : Bool :=
  Text.isBlank c || c = '-'

/-- The normal form of a typed key: no separators, upper case. -/
def normalizeChars (cs : List Char) : List Char :=
  Text.upper (cs.filter fun c => !isSeparator c)

def normalize (text : Text) : Text :=
  text.mapRuns normalizeChars

/-- The bytes of a typed key, if its normal form writes as many as a key has. -/
def decode? (text : Text) : Option Bytes :=
  match normalize text with
  | .whole s => do
    let key ← Base32.decodeChars? s.toList
    if key.length = length then return key else none
  | .broken .. => none

/-- The bytes of a typed key, or a refusal. -/
def decode (text : Text) : Except Error Bytes :=
  match decode? text with
  | some key => .ok key
  | none => .error (.authentication .backupKey)

def fingerprint (key : Bytes) : String :=
  Base64.encode (Sha256.digest key)

def generate : Draw Bytes :=
  draw length

/-- Whether a typed key has a fingerprint; the two are compared in their UTF-8 forms. -/
def hasFingerprint (text hash : Text) : Except Error Bool :=
  match decode? text with
  | some key => do
    let stored ← Utf8.encodeText hash
    return Utf8.encode (fingerprint key) = stored
  | none => .ok false

end PasswordVault.BackupKey
