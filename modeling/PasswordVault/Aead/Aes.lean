import PasswordVault.Bytes

/-!
# The block cipher AES with a key of 256 bits

A block is sixteen bytes, a column four of them. Fourteen rounds substitute the bytes, shift the
rows, mix the columns and add a round key; the last one does not mix. Only the forward direction is
needed, because both directions of counter mode encrypt the counter.

* `length_encrypt`: a block encrypts to sixteen bytes.
-/

namespace PasswordVault.Aes

/-- The substitution: the inverse in the cipher's byte field, followed by an affine map. -/
def substitution : Array UInt8 := #[
  0x63, 0x7c, 0x77, 0x7b, 0xf2, 0x6b, 0x6f, 0xc5, 0x30, 0x01, 0x67, 0x2b, 0xfe, 0xd7, 0xab, 0x76,
  0xca, 0x82, 0xc9, 0x7d, 0xfa, 0x59, 0x47, 0xf0, 0xad, 0xd4, 0xa2, 0xaf, 0x9c, 0xa4, 0x72, 0xc0,
  0xb7, 0xfd, 0x93, 0x26, 0x36, 0x3f, 0xf7, 0xcc, 0x34, 0xa5, 0xe5, 0xf1, 0x71, 0xd8, 0x31, 0x15,
  0x04, 0xc7, 0x23, 0xc3, 0x18, 0x96, 0x05, 0x9a, 0x07, 0x12, 0x80, 0xe2, 0xeb, 0x27, 0xb2, 0x75,
  0x09, 0x83, 0x2c, 0x1a, 0x1b, 0x6e, 0x5a, 0xa0, 0x52, 0x3b, 0xd6, 0xb3, 0x29, 0xe3, 0x2f, 0x84,
  0x53, 0xd1, 0x00, 0xed, 0x20, 0xfc, 0xb1, 0x5b, 0x6a, 0xcb, 0xbe, 0x39, 0x4a, 0x4c, 0x58, 0xcf,
  0xd0, 0xef, 0xaa, 0xfb, 0x43, 0x4d, 0x33, 0x85, 0x45, 0xf9, 0x02, 0x7f, 0x50, 0x3c, 0x9f, 0xa8,
  0x51, 0xa3, 0x40, 0x8f, 0x92, 0x9d, 0x38, 0xf5, 0xbc, 0xb6, 0xda, 0x21, 0x10, 0xff, 0xf3, 0xd2,
  0xcd, 0x0c, 0x13, 0xec, 0x5f, 0x97, 0x44, 0x17, 0xc4, 0xa7, 0x7e, 0x3d, 0x64, 0x5d, 0x19, 0x73,
  0x60, 0x81, 0x4f, 0xdc, 0x22, 0x2a, 0x90, 0x88, 0x46, 0xee, 0xb8, 0x14, 0xde, 0x5e, 0x0b, 0xdb,
  0xe0, 0x32, 0x3a, 0x0a, 0x49, 0x06, 0x24, 0x5c, 0xc2, 0xd3, 0xac, 0x62, 0x91, 0x95, 0xe4, 0x79,
  0xe7, 0xc8, 0x37, 0x6d, 0x8d, 0xd5, 0x4e, 0xa9, 0x6c, 0x56, 0xf4, 0xea, 0x65, 0x7a, 0xae, 0x08,
  0xba, 0x78, 0x25, 0x2e, 0x1c, 0xa6, 0xb4, 0xc6, 0xe8, 0xdd, 0x74, 0x1f, 0x4b, 0xbd, 0x8b, 0x8a,
  0x70, 0x3e, 0xb5, 0x66, 0x48, 0x03, 0xf6, 0x0e, 0x61, 0x35, 0x57, 0xb9, 0x86, 0xc1, 0x1d, 0x9e,
  0xe1, 0xf8, 0x98, 0x11, 0x69, 0xd9, 0x8e, 0x94, 0x9b, 0x1e, 0x87, 0xe9, 0xce, 0x55, 0x28, 0xdf,
  0x8c, 0xa1, 0x89, 0x0d, 0xbf, 0xe6, 0x42, 0x68, 0x41, 0x99, 0x2d, 0x0f, 0xb0, 0x54, 0xbb, 0x16]

def substitute (b : UInt8) : UInt8 :=
  substitution.getD b.toNat 0

/-- The product with `x` in the cipher's byte field. -/
def double (b : UInt8) : UInt8 :=
  if b < 128 then b <<< 1 else (b <<< 1) ^^^ 0x1b

/-- A column of four bytes from the first row down, or a word of the key. -/
structure Column where
  b0 : UInt8
  b1 : UInt8
  b2 : UInt8
  b3 : UInt8

namespace Column

def add (x y : Column) : Column :=
  ⟨x.b0 ^^^ y.b0, x.b1 ^^^ y.b1, x.b2 ^^^ y.b2, x.b3 ^^^ y.b3⟩

def sub (x : Column) : Column :=
  ⟨substitute x.b0, substitute x.b1, substitute x.b2, substitute x.b3⟩

/-- The bytes moved up by one row. -/
def rotate (x : Column) : Column :=
  ⟨x.b1, x.b2, x.b3, x.b0⟩

/-- The column times the fixed matrix with the rows `2 3 1 1`, `1 2 3 1`, `1 1 2 3` and `3 1 1
2`. -/
def mix (x : Column) : Column :=
  let all := x.b0 ^^^ x.b1 ^^^ x.b2 ^^^ x.b3
  ⟨x.b0 ^^^ all ^^^ double (x.b0 ^^^ x.b1), x.b1 ^^^ all ^^^ double (x.b1 ^^^ x.b2),
    x.b2 ^^^ all ^^^ double (x.b2 ^^^ x.b3), x.b3 ^^^ all ^^^ double (x.b3 ^^^ x.b0)⟩

def bytes (x : Column) : Bytes :=
  [x.b0, x.b1, x.b2, x.b3]

end Column

structure Block where
  c0 : Column
  c1 : Column
  c2 : Column
  c3 : Column

namespace Block

def add (x y : Block) : Block :=
  ⟨x.c0.add y.c0, x.c1.add y.c1, x.c2.add y.c2, x.c3.add y.c3⟩

def sub (x : Block) : Block :=
  ⟨x.c0.sub, x.c1.sub, x.c2.sub, x.c3.sub⟩

/-- Each row rotated to the left by its number. -/
def shift (x : Block) : Block :=
  ⟨⟨x.c0.b0, x.c1.b1, x.c2.b2, x.c3.b3⟩, ⟨x.c1.b0, x.c2.b1, x.c3.b2, x.c0.b3⟩,
    ⟨x.c2.b0, x.c3.b1, x.c0.b2, x.c1.b3⟩, ⟨x.c3.b0, x.c0.b1, x.c1.b2, x.c2.b3⟩⟩

def mix (x : Block) : Block :=
  ⟨x.c0.mix, x.c1.mix, x.c2.mix, x.c3.mix⟩

/-- The sixteen bytes of a block, column by column. -/
def bytes (x : Block) : Bytes :=
  x.c0.bytes ++ x.c1.bytes ++ x.c2.bytes ++ x.c3.bytes

end Block

def columns : Bytes → List Column
  | a :: b :: c :: d :: rest => ⟨a, b, c, d⟩ :: columns rest
  | _ => []

def blocks : List Column → List Block
  | a :: b :: c :: d :: rest => ⟨a, b, c, d⟩ :: blocks rest
  | _ => []

/-- The eight words of the key schedule after eight others; `constant` is the round constant. -/
def nextWords (constant : UInt8) (words : List Column) : List Column :=
  match words with
  | [a, b, c, d, e, f, g, h] =>
    let i := a.add (h.rotate.sub.add ⟨constant, 0, 0, 0⟩)
    let j := b.add i
    let k := c.add j
    let l := d.add k
    let m := e.add l.sub
    let n := f.add m
    let o := g.add n
    [i, j, k, l, m, n, o, h.add o]
  | other => other

/-- The key schedule from some words on, for the given number of steps. -/
def scheduleFrom : (steps : Nat) → UInt8 → List Column → List Column
  | 0, _, words => words
  | steps + 1, constant, words =>
    words ++ scheduleFrom steps (double constant) (nextWords constant words)

/-- The fifteen round keys. -/
def roundKeys (key : Bytes) : List Block :=
  (blocks (scheduleFrom 7 1 (columns key))).take 15

/-- The rounds with the given keys, the last of which does not mix. -/
def rounds : Block → List Block → Block
  | x, [] => x
  | x, [last] => x.sub.shift.add last
  | x, key :: rest => rounds (x.sub.shift.mix.add key) rest

def encryptBlock (keys : List Block) (x : Block) : Block :=
  match keys with
  | [] => x
  | key :: rest => rounds (x.add key) rest

/-- The sixteen bytes that a block encrypts to. -/
def encrypt (keys : List Block) (block : Bytes) : Bytes :=
  match columns block with
  | [a, b, c, d] => (encryptBlock keys ⟨a, b, c, d⟩).bytes
  | _ => List.replicate 16 0

theorem length_encrypt (keys : List Block) (block : Bytes) : (encrypt keys block).length = 16 := by
  unfold encrypt
  split <;> rfl

end PasswordVault.Aes
