import PasswordVault.Bytes

/-!
# SHA-256

The hash function with 256 bits of output: the message is padded to whole blocks of 64 bytes, each
block is expanded to a schedule of 64 words, and the schedule is stirred into a state of eight
words.
-/

namespace PasswordVault.Sha256

/-- The working words of the compression function. -/
structure State where
  a : UInt32
  b : UInt32
  c : UInt32
  d : UInt32
  e : UInt32
  f : UInt32
  g : UInt32
  h : UInt32

/-- The first 32 bits of the fractional parts of the square roots of the first eight primes. -/
def State.initial : State where
  a := 0x6a09e667
  b := 0xbb67ae85
  c := 0x3c6ef372
  d := 0xa54ff53a
  e := 0x510e527f
  f := 0x9b05688c
  g := 0x1f83d9ab
  h := 0x5be0cd19

/-- The first 32 bits of the fractional parts of the cube roots of the first 64 primes. -/
def roundConstants : List UInt32 := [
  0x428a2f98, 0x71374491, 0xb5c0fbcf, 0xe9b5dba5, 0x3956c25b, 0x59f111f1, 0x923f82a4, 0xab1c5ed5,
  0xd807aa98, 0x12835b01, 0x243185be, 0x550c7dc3, 0x72be5d74, 0x80deb1fe, 0x9bdc06a7, 0xc19bf174,
  0xe49b69c1, 0xefbe4786, 0x0fc19dc6, 0x240ca1cc, 0x2de92c6f, 0x4a7484aa, 0x5cb0a9dc, 0x76f988da,
  0x983e5152, 0xa831c66d, 0xb00327c8, 0xbf597fc7, 0xc6e00bf3, 0xd5a79147, 0x06ca6351, 0x14292967,
  0x27b70a85, 0x2e1b2138, 0x4d2c6dfc, 0x53380d13, 0x650a7354, 0x766a0abb, 0x81c2c92e, 0x92722c85,
  0xa2bfe8a1, 0xa81a664b, 0xc24b8b70, 0xc76c51a3, 0xd192e819, 0xd6990624, 0xf40e3585, 0x106aa070,
  0x19a4c116, 0x1e376c08, 0x2748774c, 0x34b0bcb5, 0x391c0cb3, 0x4ed8aa4a, 0x5b9cca4f, 0x682e6ff3,
  0x748f82ee, 0x78a5636f, 0x84c87814, 0x8cc70208, 0x90befffa, 0xa4506ceb, 0xbef9a3f7, 0xc67178f2]

/-- A word of 32 bits rotated to the right. -/
@[inline] def rotr (x : UInt32) (n : UInt32) : UInt32 :=
  (x >>> n) ||| (x <<< (32 - n))

/-- One word more of the schedule. -/
def extend (words : Array UInt32) : Array UInt32 :=
  let n := words.size
  let x := words.getD (n - 15) 0
  let y := words.getD (n - 2) 0
  let s := rotr x 7 ^^^ rotr x 18 ^^^ (x >>> 3)
  let t := rotr y 17 ^^^ rotr y 19 ^^^ (y >>> 10)
  words.push (words.getD (n - 16) 0 + s + words.getD (n - 7) 0 + t)

def extendTimes : Nat → Array UInt32 → Array UInt32
  | 0, words => words
  | count + 1, words => extendTimes count (extend words)

/-- The words of a block, the most significant byte first. -/
def words : Bytes → List UInt32
  | a :: b :: c :: d :: rest =>
    ((a.toUInt32 <<< 24) ||| (b.toUInt32 <<< 16) ||| (c.toUInt32 <<< 8) ||| d.toUInt32)
      :: words rest
  | _ => []

def schedule (block : Bytes) : List UInt32 :=
  (extendTimes 48 (words block).toArray).toList

/-- One round with a word of the schedule and a round constant. -/
def State.round (s : State) (k w : UInt32) : State :=
  let high := rotr s.e 6 ^^^ rotr s.e 11 ^^^ rotr s.e 25
  let choice := (s.e &&& s.f) ^^^ (~~~ s.e &&& s.g)
  let t := s.h + high + choice + k + w
  let low := rotr s.a 2 ^^^ rotr s.a 13 ^^^ rotr s.a 22
  let majority := (s.a &&& s.b) ^^^ (s.a &&& s.c) ^^^ (s.b &&& s.c)
  ⟨t + (low + majority), s.a, s.b, s.c, s.d + t, s.e, s.f, s.g⟩

def State.rounds : State → List UInt32 → List UInt32 → State
  | s, k :: ks, w :: ws => rounds (s.round k w) ks ws
  | s, _, _ => s

/-- Stirs a block into the state. -/
def State.compress (s : State) (block : Bytes) : State :=
  let t := s.rounds roundConstants (schedule block)
  ⟨s.a + t.a, s.b + t.b, s.c + t.c, s.d + t.d, s.e + t.e, s.f + t.f, s.g + t.g, s.h + t.h⟩

/-- The bytes of a word, the most significant first. -/
def wordBytes (x : UInt32) : Bytes :=
  [(x >>> 24).toUInt8, (x >>> 16).toUInt8, (x >>> 8).toUInt8, x.toUInt8]

def State.bytes (s : State) : Bytes :=
  [s.a, s.b, s.c, s.d, s.e, s.f, s.g, s.h].flatMap wordBytes

/-- The message with the end mark, zeros up to a whole block, and its length in bits. -/
def pad (message : Bytes) : Bytes :=
  let filled := message.length + 9
  message ++ 0x80 :: List.replicate ((64 - filled % 64) % 64) 0
    ++ Bytes.ofNatBE 8 (8 * message.length)

/-- The digest of a message, 32 bytes. -/
def digest (message : Bytes) : Bytes :=
  ((Bytes.chunks 64 (pad message)).foldl State.compress State.initial).bytes

@[simp] theorem length_digest (message : Bytes) : (digest message).length = 32 := by
  simp [digest, State.bytes, wordBytes]

end PasswordVault.Sha256
