import PasswordVault.Aead.Aes

/-!
# AES-256 in Galois counter mode

The keystream is the encrypted counter, which starts at two behind the nonce. The tag is a
polynomial in the field with `2^128` elements, whose coefficients are the associated data, the
ciphertext and their lengths, evaluated at the encrypted zero block and masked with the first
counter block.

Elements are read from blocks with the most significant bit first, and that bit is the constant term
of the polynomial modulo `x^128 + x^7 + x^2 + x + 1`.

* `le_length_keystream`, `length_tag`: there is enough keystream, and a tag has sixteen bytes.
-/

namespace PasswordVault.Gcm

/-- The counter block of a nonce. -/
def counterBlock (nonce : Bytes) (counter : Nat) : Bytes :=
  nonce ++ Bytes.ofNatBE 4 counter

/-- The first `count` keystream blocks from a counter on. -/
def keystreamFrom (keys : List Aes.Block) (nonce : Bytes) : (count counter : Nat) → Bytes
  | 0, _ => []
  | count + 1, counter =>
    Aes.encrypt keys (counterBlock nonce counter) ++ keystreamFrom keys nonce count (counter + 1)

/-- At least `length` bytes of keystream. -/
def keystream (key nonce : Bytes) (length : Nat) : Bytes :=
  keystreamFrom (Aes.roundKeys key) nonce ((length + 15) / 16) 2

/-- The product with `x`. -/
def double (a : Nat) : Nat :=
  if a % 2 = 0 then a / 2 else (a / 2) ^^^ (0xe1 <<< 120)

/-- The sum of `b` times `x^i` over the first `count` coefficients `i` of `a`. -/
def mulFrom (a : Nat) : (count b : Nat) → Nat → Nat
  | 0, _, sum => sum
  | count + 1, b, sum =>
    mulFrom a count (double b) (if a.testBit count then sum ^^^ b else sum)

def mul (a b : Nat) : Nat :=
  mulFrom a 128 b 0

/-- The polynomial with the given blocks as coefficients, evaluated at `h`. -/
def hash (h : Nat) (data : Bytes) : Nat :=
  (Bytes.chunks 16 data).foldl (fun sum block => mul (sum ^^^ Bytes.toNatBE block) h) 0

/-- The authenticated data as whole blocks, with the lengths in bits at the end. -/
def authenticated (ad ciphertext : Bytes) : Bytes :=
  Bytes.padTo 16 ad ++ Bytes.padTo 16 ciphertext
    ++ Bytes.ofNatBE 8 (8 * ad.length) ++ Bytes.ofNatBE 8 (8 * ciphertext.length)

/-- The tag, sixteen bytes. -/
def tag (key nonce ad ciphertext : Bytes) : Bytes :=
  let keys := Aes.roundKeys key
  let h := Bytes.toNatBE (Aes.encrypt keys (List.replicate 16 0))
  let mask := Bytes.toNatBE (Aes.encrypt keys (counterBlock nonce 1))
  Bytes.ofNatBE 16 (hash h (authenticated ad ciphertext) ^^^ mask)

theorem length_keystreamFrom (keys : List Aes.Block) (nonce : Bytes) (count counter : Nat) :
    (keystreamFrom keys nonce count counter).length = 16 * count := by
  induction count generalizing counter with
  | zero => rfl
  | succ n ih => rw [keystreamFrom, List.length_append, Aes.length_encrypt, ih]; omega

theorem le_length_keystream (key nonce : Bytes) (length : Nat) :
    length ≤ (keystream key nonce length).length := by
  rw [keystream, length_keystreamFrom]; omega

@[simp] theorem length_tag (key nonce ad ciphertext : Bytes) :
    (tag key nonce ad ciphertext).length = 16 := by
  simp [tag]

end PasswordVault.Gcm
