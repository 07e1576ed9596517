import PasswordVault.Bytes

/-!
# BLAKE2b

The unkeyed hash function with a digest of up to 64 bytes, and the hash with a digest of any length
that Argon2 builds from it. Sixteen words are mixed in twelve rounds, each of which takes the words
of the message block in another order.
-/

namespace PasswordVault.Blake2b

/-- The first 64 bits of the fractional parts of the square roots of the first eight primes. -/
def initial : Array UInt64 := #[
  0x6a09e667f3bcc908, 0xbb67ae8584caa73b, 0x3c6ef372fe94f82b, 0xa54ff53a5f1d36f1,
  0x510e527fade682d1, 0x9b05688c2b3e6c1f, 0x1f83d9abfb41bd6b, 0x5be0cd19137e2179]

/-- The order of the message words in each round. -/
def orders : List (List Nat) := [
  [0, 1, 2, 3, 4, 5, 6, 7, 8, 9, 10, 11, 12, 13, 14, 15],
  [14, 10, 4, 8, 9, 15, 13, 6, 1, 12, 0, 2, 11, 7, 5, 3],
  [11, 8, 12, 0, 5, 2, 15, 13, 10, 14, 3, 6, 7, 1, 9, 4],
  [7, 9, 3, 1, 13, 12, 11, 14, 2, 6, 5, 10, 4, 0, 15, 8],
  [9, 0, 5, 7, 2, 4, 10, 15, 14, 1, 11, 12, 6, 8, 3, 13],
  [2, 12, 6, 10, 0, 11, 8, 3, 4, 13, 7, 5, 15, 14, 1, 9],
  [12, 5, 1, 15, 14, 13, 4, 10, 0, 7, 6, 3, 9, 2, 8, 11],
  [13, 11, 7, 14, 12, 1, 3, 9, 5, 0, 15, 4, 8, 6, 2, 10],
  [6, 15, 14, 9, 11, 3, 0, 8, 12, 2, 13, 7, 1, 4, 10, 5],
  [10, 2, 8, 4, 7, 6, 1, 5, 15, 11, 9, 14, 3, 12, 13, 0],
  [0, 1, 2, 3, 4, 5, 6, 7, 8, 9, 10, 11, 12, 13, 14, 15],
  [14, 10, 4, 8, 9, 15, 13, 6, 1, 12, 0, 2, 11, 7, 5, 3]]

/-- Mixes two message words into four words of the state. -/
def mix (v : Array UInt64) (i j k l : Nat) (x y : UInt64) : Array UInt64 :=
  let a := v.getD i 0
  let b := v.getD j 0
  let c := v.getD k 0
  let d := v.getD l 0
  let a := a + b + x
  let d := rotateRight (d ^^^ a) 32
  let c := c + d
  let b := rotateRight (b ^^^ c) 24
  let a := a + b + y
  let d := rotateRight (d ^^^ a) 16
  let c := c + d
  let b := rotateRight (b ^^^ c) 63
  (((v.setIfInBounds i a).setIfInBounds j b).setIfInBounds k c).setIfInBounds l d

/-- A round on the columns and the diagonals with the message words in the given order. -/
def round (message : Array UInt64) (v : Array UInt64) (order : List Nat) : Array UInt64 :=
  match order.map fun i => message.getD i 0 with
  | [a, b, c, d, e, f, g, h, i, j, k, l, m, n, o, p] =>
    let v := mix v 0 4 8 12 a b
    let v := mix v 1 5 9 13 c d
    let v := mix v 2 6 10 14 e f
    let v := mix v 3 7 11 15 g h
    let v := mix v 0 5 10 15 i j
    let v := mix v 1 6 11 12 k l
    let v := mix v 2 7 8 13 m n
    mix v 3 4 9 14 o p
  | _ => v

/-- The words of a byte string, the least significant byte first. -/
def words : Bytes → List UInt64
  | a :: b :: c :: d :: e :: f :: g :: h :: rest =>
    (a.toUInt64 ||| (b.toUInt64 <<< 8) ||| (c.toUInt64 <<< 16) ||| (d.toUInt64 <<< 24)
      ||| (e.toUInt64 <<< 32) ||| (f.toUInt64 <<< 40) ||| (g.toUInt64 <<< 48)
      ||| (h.toUInt64 <<< 56))
      :: words rest
  | _ => []

/-- The bytes of a word, the least significant first. -/
def wordBytes (x : UInt64) : Bytes :=
  [x.toUInt8, (x >>> 8).toUInt8, (x >>> 16).toUInt8, (x >>> 24).toUInt8,
    (x >>> 32).toUInt8, (x >>> 40).toUInt8, (x >>> 48).toUInt8, (x >>> 56).toUInt8]

/-- Stirs a block into the state; `count` bytes have been hashed with it, and `last` marks the final
block. -/
def compress (state : Array UInt64) (block : Bytes) (count : Nat) (last : Bool) : Array UInt64 :=
  let message := (words block).toArray
  let v := state ++ initial
  let v := v.setIfInBounds 12 (v.getD 12 0 ^^^ UInt64.ofNat count)
  let v := if last then v.setIfInBounds 14 (~~~ v.getD 14 0) else v
  let v := orders.foldl (round message) v
  (List.range 8).toArray.map fun i => state.getD i 0 ^^^ v.getD i 0 ^^^ v.getD (i + 8) 0

/-- Stirs the blocks of a message into the state, `done` bytes having been hashed before. -/
def absorb (total : Nat) : List Bytes → (done : Nat) → Array UInt64 → Array UInt64
  | [], _, state => state
  | [block], _, state => compress state (Bytes.padTo 128 block) total true
  | block :: rest, done, state =>
    absorb total rest (done + 128) (compress state block (done + 128) false)

/-- The blocks of a message; even the empty message has one. -/
def blocks (message : Bytes) : List Bytes :=
  if message.isEmpty then [List.replicate 128 0] else Bytes.chunks 128 message

/-- The digest of a message, `size` bytes with `size` up to 64. -/
def digest (size : Nat) (message : Bytes) : Bytes :=
  let start := initial.setIfInBounds 0 (initial.getD 0 0 ^^^ 0x01010000 ^^^ UInt64.ofNat size)
  ((absorb message.length (blocks message) 0 start).toList.flatMap wordBytes).take size

/-- The first halves of `count` digests, each of the one before, and the digest of the last. -/
def chain (size : Nat) : (count : Nat) → (last : Bytes) → Bytes
  | 0, last => digest size last
  | count + 1, last =>
    let next := digest 64 last
    next.take 32 ++ chain size count next

/-- The digest of a message with any size. -/
def longDigest (size : Nat) (message : Bytes) : Bytes :=
  let input := Bytes.ofNatLE 4 size ++ message
  if size ≤ 64 then digest size input
  else
    let first := digest 64 input
    let halves := (size + 31) / 32 - 2
    first.take 32 ++ chain (size - 32 * halves) (halves - 1) first

end PasswordVault.Blake2b
