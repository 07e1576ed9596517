import PasswordVault.Hash.Sha256
import PasswordVault.Hash.Sha512

/-!
# Keyed hashing

HMAC over a hash function with a block size, HKDF with SHA-256, which derives a key from a secret
that is already random, and PBKDF2 with SHA-512, which stretches a recovery phrase. Both derive at
most as many bytes as one run of the underlying function gives.
-/

namespace PasswordVault

/-- A hash function that works on blocks of `blockSize` bytes. -/
structure HashFunction where
  blockSize : Nat
  digest : Bytes → Bytes

namespace HashFunction

def sha256 : HashFunction := ⟨64, Sha256.digest⟩

def sha512 : HashFunction := ⟨128, Sha512.digest⟩

/-- A key as one block: hashed first if it is longer, filled with zeros if it is shorter. -/
def keyBlock (hash : HashFunction) (key : Bytes) : Bytes :=
  let key := if key.length > hash.blockSize then hash.digest key else key
  key ++ List.replicate (hash.blockSize - key.length) 0

/-- The HMAC of a message under a key that fills one block. -/
def macOfBlock (hash : HashFunction) (block message : Bytes) : Bytes :=
  let inner := hash.digest (block.map (fun b => b ^^^ 0x36) ++ message)
  hash.digest (block.map (fun b => b ^^^ 0x5c) ++ inner)

/-- The HMAC of a message under a key. -/
def mac (hash : HashFunction) (key message : Bytes) : Bytes :=
  hash.macOfBlock (hash.keyBlock key) message

end HashFunction

/-- Thirty-two bytes derived from random key material for a context, HKDF with SHA-256. No salt is
the same as an empty one. -/
def hkdf (salt material context : Bytes) : Bytes :=
  let key := HashFunction.sha256.mac salt material
  HashFunction.sha256.mac key (context ++ [1])

/-- The rounds of PBKDF2 after the first: each hashes the last result and adds it to the sum. -/
def pbkdf2Rounds (block : Bytes) : (rounds : Nat) → (last sum : Bytes) → Bytes
  | 0, _, sum => sum
  | rounds + 1, last, sum =>
    let next := HashFunction.sha512.macOfBlock block last
    pbkdf2Rounds block rounds next (Bytes.xor sum next)

/-- Sixty-four bytes stretched from a secret, PBKDF2 with HMAC-SHA-512. -/
def pbkdf2 (secret salt : Bytes) (rounds : Nat) : Bytes :=
  let block := HashFunction.sha512.keyBlock secret
  let first := HashFunction.sha512.macOfBlock block (salt ++ [0, 0, 0, 1])
  pbkdf2Rounds block (rounds - 1) first first

@[simp] theorem length_hkdf (salt material context : Bytes) :
    (hkdf salt material context).length = 32 := by
  simp [hkdf, HashFunction.mac, HashFunction.macOfBlock, HashFunction.sha256]

end PasswordVault
