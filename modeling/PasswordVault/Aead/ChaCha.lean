import PasswordVault.Bytes

/-!
# ChaCha20 with Poly1305

The keystream is the ChaCha20 block function over a counter that starts at one behind the nonce. The
tag is a polynomial modulo `2^130 - 5` over the associated data, the ciphertext and their lengths,
evaluated at a clamped point and shifted by a mask; point and mask are the first half of the block
with counter zero.

* `le_length_keystream`, `length_tag`: there is enough keystream, and a tag has sixteen bytes.
-/

namespace PasswordVault.ChaCha

abbrev State := Array UInt32

@[inline] def rotl (x n : UInt32) : UInt32 :=
  (x <<< n) ||| (x >>> (32 - n))

def quarterRound (s : State) (i j k l : Nat) : State :=
  let a := s.getD i 0
  let b := s.getD j 0
  let c := s.getD k 0
  let d := s.getD l 0
  let a := a + b
  let d := rotl (d ^^^ a) 16
  let c := c + d
  let b := rotl (b ^^^ c) 12
  let a := a + b
  let d := rotl (d ^^^ a) 8
  let c := c + d
  let b := rotl (b ^^^ c) 7
  (((s.setIfInBounds i a).setIfInBounds j b).setIfInBounds k c).setIfInBounds l d

/-- A round on the columns and one on the diagonals. -/
def doubleRound (s : State) : State :=
  let s := quarterRound s 0 4 8 12
  let s := quarterRound s 1 5 9 13
  let s := quarterRound s 2 6 10 14
  let s := quarterRound s 3 7 11 15
  let s := quarterRound s 0 5 10 15
  let s := quarterRound s 1 6 11 12
  let s := quarterRound s 2 7 8 13
  quarterRound s 3 4 9 14

def doubleRounds : Nat → State → State
  | 0, s => s
  | count + 1, s => doubleRounds count (doubleRound s)

/-- The words of a byte string, the least significant byte first. -/
def words : Bytes → List UInt32
  | a :: b :: c :: d :: rest =>
    (a.toUInt32 ||| (b.toUInt32 <<< 8) ||| (c.toUInt32 <<< 16) ||| (d.toUInt32 <<< 24))
      :: words rest
  | _ => []

/-- The bytes of a word, the least significant first. -/
def wordBytes (x : UInt32) : Bytes :=
  [x.toUInt8, (x >>> 8).toUInt8, (x >>> 16).toUInt8, (x >>> 24).toUInt8]

/-- The words that a block starts from. -/
def start (key nonce : Bytes) (counter : Nat) : List UInt32 :=
  [0x61707865, 0x3320646e, 0x79622d32, 0x6b206574] ++ words key ++ [UInt32.ofNat counter]
    ++ words nonce

/-- The sixty-four bytes of keystream for a counter. -/
def block (key nonce : Bytes) (counter : Nat) : Bytes :=
  let first := start key nonce counter
  let last := (doubleRounds 10 first.toArray).toList
  (List.zipWith (fun x y => x + y) first last).flatMap wordBytes

/-- The first `count` keystream blocks from a counter on. -/
def keystreamFrom (key nonce : Bytes) : (count counter : Nat) → Bytes
  | 0, _ => []
  | count + 1, counter => block key nonce counter ++ keystreamFrom key nonce count (counter + 1)

/-- At least `length` bytes of keystream. -/
def keystream (key nonce : Bytes) (length : Nat) : Bytes :=
  keystreamFrom key nonce ((length + 63) / 64) 1

/-- The modulus of the tag. -/
def modulus : Nat := Nat.pow 2 130 - 5

/-- The polynomial whose coefficients are the blocks, each with a one behind it, evaluated at
`r`. -/
def hash (r : Nat) (data : Bytes) : Nat :=
  (Bytes.chunks 16 data).foldl
    (fun sum block => (sum + Bytes.toNatLE (block ++ [1])) * r % modulus) 0

/-- The authenticated data as whole blocks, with the lengths at the end. -/
def authenticated (ad ciphertext : Bytes) : Bytes :=
  Bytes.padTo 16 ad ++ Bytes.padTo 16 ciphertext
    ++ Bytes.ofNatLE 8 ad.length ++ Bytes.ofNatLE 8 ciphertext.length

/-- The tag, sixteen bytes. -/
def tag (key nonce ad ciphertext : Bytes) : Bytes :=
  let once := block key nonce 0
  let r := Bytes.toNatLE (once.take 16) &&& 0x0ffffffc0ffffffc0ffffffc0fffffff
  let mask := Bytes.toNatLE ((once.drop 16).take 16)
  Bytes.ofNatLE 16 (hash r (authenticated ad ciphertext) + mask)

theorem size_quarterRound (s : State) (i j k l : Nat) : (quarterRound s i j k l).size = s.size := by
  simp [quarterRound]

theorem size_doubleRound (s : State) : (doubleRound s).size = s.size := by
  simp [doubleRound, size_quarterRound]

theorem size_doubleRounds (count : Nat) (s : State) : (doubleRounds count s).size = s.size := by
  induction count generalizing s with
  | zero => rfl
  | succ n ih => rw [doubleRounds, ih, size_doubleRound]

theorem length_words (bs : Bytes) : (words bs).length = bs.length / 4 := by
  fun_induction words bs with
  | case1 a b c d rest ih => simp only [List.length_cons, ih]; omega
  | case2 bs h =>
    match bs, h with
    | [], _ => rfl
    | [_], _ => simp
    | [_, _], _ => simp
    | [_, _, _], _ => simp
    | a :: b :: c :: d :: rest, h => exact absurd rfl (h a b c d rest)

theorem length_wordBytes (ws : List UInt32) : (ws.flatMap wordBytes).length = 4 * ws.length := by
  induction ws with
  | nil => rfl
  | cons w rest ih => rw [List.flatMap_cons, List.length_append, ih]; simp [wordBytes]; omega

theorem length_block {key nonce : Bytes} (hk : key.length = 32) (hn : nonce.length = 12)
    (counter : Nat) : (block key nonce counter).length = 64 := by
  have hs : (start key nonce counter).length = 16 := by simp [start, length_words, hk, hn]
  have hd : (doubleRounds 10 (start key nonce counter).toArray).toList.length = 16 := by
    rw [Array.length_toList, size_doubleRounds, List.size_toArray, hs]
  rw [block, length_wordBytes, List.length_zipWith, hs, hd]
  rfl

theorem length_keystreamFrom {key nonce : Bytes} (hk : key.length = 32) (hn : nonce.length = 12)
    (count counter : Nat) : (keystreamFrom key nonce count counter).length = 64 * count := by
  induction count generalizing counter with
  | zero => rfl
  | succ n ih => rw [keystreamFrom, List.length_append, length_block hk hn, ih]; omega

theorem le_length_keystream {key nonce : Bytes} (hk : key.length = 32) (hn : nonce.length = 12)
    (length : Nat) : length ≤ (keystream key nonce length).length := by
  rw [keystream, length_keystreamFrom hk hn]; omega

@[simp] theorem length_tag (key nonce ad ciphertext : Bytes) :
    (tag key nonce ad ciphertext).length = 16 := by
  simp [tag]

end PasswordVault.ChaCha
