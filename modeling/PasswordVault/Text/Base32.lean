import PasswordVault.Bytes

/-!
# Base32

Letters and the digits two to seven, five bits for a character, the most significant first. The text
of a byte string is read as one number in base 32; the bits of the last character that no byte uses
are zero when written and ignored when read. There is no filling character.
-/

namespace PasswordVault.Base32

/-- The characters for the numbers below 32, in order. -/
def alphabet : List Char :=
  "ABCDEFGHIJKLMNOPQRSTUVWXYZ234567".toList

/-- The character of a number below 32. -/
def digit (n : Nat) : Char :=
  alphabet.getD (n % 32) 'A'

/-- The number a character stands for. -/
def value? (c : Char) : Option Nat :=
  if 'A' ≤ c ∧ c ≤ 'Z' then some (c.toNat - 65)
  else if '2' ≤ c ∧ c ≤ '7' then some (c.toNat - 24)
  else none

/-- The `count` base-32 digits of a number, the most significant first. -/
def digits : (count n : Nat) → List Nat
  | 0, _ => []
  | count + 1, n => digits count (n / 32) ++ [n % 32]

/-- The number that base-32 digits write. -/
def number (ds : List Nat) : Nat :=
  ds.foldl (fun n d => n * 32 + d) 0

/-- How many characters the bytes take. -/
def textLength (bytes : Nat) : Nat :=
  (8 * bytes + 4) / 5

/-- The characters of a byte string: its bits, with zeros added up to a multiple of five. -/
def encodeChars (bs : Bytes) : List Char :=
  let count := textLength bs.length
  (digits count (Bytes.toNatBE bs * Nat.pow 2 (5 * count - 8 * bs.length))).map digit

/-- The bytes that the characters write: the bits that fill whole bytes. No byte string takes a
number of characters that leaves a whole character over. -/
def decodeChars? (cs : List Char) : Option Bytes := do
  let ds ← cs.mapM value?
  let size := 5 * ds.length / 8
  if textLength size = ds.length then
    return Bytes.ofNatBE size (number ds / Nat.pow 2 (5 * ds.length - 8 * size))
  else none

theorem value?_digit : ∀ n : Nat, n < 32 → value? (digit n) = some n := by
  decide

end PasswordVault.Base32
