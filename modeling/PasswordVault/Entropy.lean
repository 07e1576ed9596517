import PasswordVault.Bytes
import PasswordVault.Error

/-!
# Random bytes

Random bytes come from a tape that is read from front to back: whoever draws gets the next bytes,
and no byte is given out twice. An attempt is a computation that may draw and may fail; what it drew
before it failed stays drawn.

* `draw_position`, `length_draw`: a draw of `n` bytes gives `n` bytes and moves the tape on by `n`.
-/

namespace PasswordVault

/-- An endless supply of random bytes, of which those in front of `position` are used up. -/
structure Tape where
  byte : Nat → UInt8
  position : Nat

/-- The `count` bytes of the tape from the position `start` on. -/
def Tape.slice (tape : Tape) (start count : Nat) : Bytes :=
  (List.range count).map fun i => tape.byte (start + i)

/-- Computations that draw random bytes. -/
abbrev Draw := StateM Tape

/-- Computations that draw random bytes and may fail. -/
abbrev Attempt := ExceptT Error Draw

/-- Draws the next `count` bytes. -/
def draw (count : Nat) : Draw Bytes := fun tape =>
  (tape.slice tape.position count, { tape with position := tape.position + count })

@[simp] theorem draw_position (count : Nat) (tape : Tape) :
    (draw count tape).2.position = tape.position + count :=
  rfl

@[simp] theorem length_draw (count : Nat) (tape : Tape) : (draw count tape).1.length = count := by
  simp [draw, Tape.slice]

/-- An attempt that draws nothing. -/
def Attempt.ofExcept {α : Type} : Except Error α → Attempt α
  | .ok a => pure a
  | .error e => throw e

end PasswordVault
