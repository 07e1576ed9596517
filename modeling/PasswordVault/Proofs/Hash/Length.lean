import PasswordVault.Hash.Argon2
import PasswordVault.Hash.Mac
import PasswordVault.Phrase.Basic
import Mathlib.Data.Nat.Notation

/-!
# Lengths of keys

What is stretched from a secret has a length of its own, whatever the secret and the costs are: 32
bytes from Argon2id, 64 bytes from PBKDF2. A phrase is stretched to a seed.

* `Argon2.length_stretch`, `length_pbkdf2`, `Phrase.length_stretch`.
-/

namespace PasswordVault

namespace Blake2b

theorem length_flatMap_wordBytes (ws : List UInt64) :
    (ws.flatMap wordBytes).length = 8 * ws.length := by
  induction ws with
  | nil => rfl
  | cons w ws ih =>
    rw [List.flatMap_cons, List.length_append, ih, List.length_cons]
    simp only [wordBytes, List.length_cons, List.length_nil]
    omega

theorem size_compress (state : Array UInt64) (block : Bytes) (count : ℕ) (last : Bool) :
    (compress state block count last).size = 8 := by
  simp [compress]

/-- Eight words come out of absorbing blocks, if there were eight before. -/
theorem size_absorb (total : ℕ) (blocks : List Bytes) (done : ℕ) {state : Array UInt64}
    (h : state.size = 8) : (absorb total blocks done state).size = 8 := by
  fun_induction absorb total blocks done state with
  | case1 => exact h
  | case2 done state block => exact size_compress _ _ _ _
  | case3 done state block rest hne ih => exact ih (size_compress _ _ _ _)

theorem length_digest {size : ℕ} (h : size ≤ 64) (message : Bytes) :
    (digest size message).length = size := by
  rw [digest, List.length_take, length_flatMap_wordBytes, Array.length_toList,
    size_absorb _ _ _ (by simp [initial])]
  omega

theorem length_longDigest {size : ℕ} (h : size ≤ 64) (message : Bytes) :
    (longDigest size message).length = size := by
  rw [longDigest, if_pos h]
  exact length_digest h _

end Blake2b

theorem Argon2.length_stretch (costs : Costs) (password salt : Bytes) :
    (stretch costs password salt).length = 32 :=
  Blake2b.length_longDigest (by decide : 32 ≤ 64) _

theorem length_macOfBlock_sha512 (block message : Bytes) :
    (HashFunction.sha512.macOfBlock block message).length = 64 := by
  simp [HashFunction.macOfBlock, HashFunction.sha512]

theorem length_pbkdf2Rounds (block : Bytes) (rounds : ℕ) (last : Bytes) {sum : Bytes}
    (h : sum.length = 64) : (pbkdf2Rounds block rounds last sum).length = 64 := by
  induction rounds generalizing last sum with
  | zero => exact h
  | succ rounds ih =>
    rw [pbkdf2Rounds]
    exact ih _ (by rw [Bytes.length_xor, h, length_macOfBlock_sha512]; rfl)

theorem length_pbkdf2 (secret salt : Bytes) (rounds : ℕ) :
    (pbkdf2 secret salt rounds).length = 64 :=
  length_pbkdf2Rounds _ _ _ (length_macOfBlock_sha512 _ _)

theorem Phrase.length_stretch (phrase : String) : (stretch phrase).length = seedLength := by
  rw [stretch, List.length_take, length_pbkdf2]
  rfl

end PasswordVault
