/-!
# Byte strings

Whatever the vault seals, hashes or splits is a byte string, kept as a list so that facts about it
are facts about lists. This module has the exclusive or of two byte strings, the numbers they write
with the most or the least significant byte first, their cutting into pieces of one size, and the
rotation of words that two of the hash functions share.

* `length_xor`, `xor_xor_cancel`: the exclusive or keeps the length, and a second one undoes the
  first.
* `length_ofNatBE`, `length_ofNatLE`: a number is written with exactly the asked number of bytes.
-/

namespace PasswordVault

abbrev Bytes := List UInt8

namespace Bytes

/-- The position-wise exclusive or, as long as the shorter of the two. -/
def xor (a b : Bytes) : Bytes :=
  List.zipWith (fun x y => x ^^^ y) a b

theorem length_xor (a b : Bytes) : (xor a b).length = min a.length b.length := by
  simp [xor]

theorem xor_xor_cancel {a k : Bytes} (h : a.length ≤ k.length) : xor (xor a k) k = a := by
  induction a generalizing k with
  | nil => simp [xor]
  | cons x xs ih =>
    cases k with
    | nil => simp at h
    | cons y ys =>
      have hs : xs.length ≤ ys.length := by simpa using h
      have := ih hs
      simp only [xor, List.zipWith_cons_cons, List.cons.injEq] at this ⊢
      exact ⟨by rw [UInt8.xor_assoc, UInt8.xor_self, UInt8.xor_zero], this⟩

/-! ### Numbers -/

/-- The number that the bytes write, the most significant byte first. -/
def toNatBE (bs : Bytes) : Nat :=
  bs.foldl (fun n b => n * 256 + b.toNat) 0

/-- The number that the bytes write, the least significant byte first. -/
def toNatLE (bs : Bytes) : Nat :=
  bs.foldr (fun b n => b.toNat + 256 * n) 0

/-- The low `width` bytes of `n`, the least significant first. -/
def ofNatLE : (width n : Nat) → Bytes
  | 0, _ => []
  | width + 1, n => UInt8.ofNat n :: ofNatLE width (n / 256)

/-- The low `width` bytes of `n`, the most significant first. -/
def ofNatBE (width n : Nat) : Bytes :=
  (ofNatLE width n).reverse

@[simp] theorem length_ofNatLE (width n : Nat) : (ofNatLE width n).length = width := by
  induction width generalizing n with
  | zero => rfl
  | succ w ih => simp [ofNatLE, ih]

@[simp] theorem length_ofNatBE (width n : Nat) : (ofNatBE width n).length = width := by
  simp [ofNatBE]

/-! ### Pieces -/

/-- The first `count` pieces of `size` bytes. -/
def pieces (size : Nat) : (count : Nat) → Bytes → List Bytes
  | 0, _ => []
  | count + 1, bs => bs.take size :: pieces size count (bs.drop size)

/-- The byte string cut into pieces of `size` bytes, the last of which may be shorter. -/
def chunks (size : Nat) (bs : Bytes) : List Bytes :=
  pieces size ((bs.length + size - 1) / size) bs

/-- The bytes followed by as many zeros as make the length a multiple of `size`. -/
def padTo (size : Nat) (bs : Bytes) : Bytes :=
  bs ++ List.replicate ((size - bs.length % size) % size) 0

end Bytes

/-- A word of 64 bits rotated to the right. -/
@[inline] def rotateRight (x n : UInt64) : UInt64 :=
  (x >>> n) ||| (x <<< (64 - n))

end PasswordVault
