import PasswordVault.Text.Basic
import PasswordVault.Text.CaseTable

/-!
# Blanks, trimming and words

A blank is a character that separates words: the white space of Unicode and the four information
separators of ASCII. A surrogate separates nothing. A text is trimmed by dropping the blanks at its
ends and has as words its longest runs of code points that are not blank.

* `isBlank_of_isWhitespace`: every blank of ASCII is a blank.
-/

namespace PasswordVault.Text

/-- The white space of Unicode. -/
def whiteSpans : List CaseTable.Span := [
  ⟨0x9, 0xd⟩, ⟨0x20, 0x20⟩, ⟨0x85, 0x85⟩, ⟨0xa0, 0xa0⟩, ⟨0x1680, 0x1680⟩, ⟨0x2000, 0x200a⟩,
  ⟨0x2028, 0x2029⟩, ⟨0x202f, 0x202f⟩, ⟨0x205f, 0x205f⟩, ⟨0x3000, 0x3000⟩]

def isWhite (c : Char) : Bool :=
  CaseTable.inSpans whiteSpans c.toNat

/-- Whether a character separates words. -/
def isBlank (c : Char) : Bool :=
  isWhite c || (0x1c ≤ c.toNat && c.toNat ≤ 0x1f)

/-- Whether a code point separates words. -/
def Point.isBlank : Point → Bool
  | .char c => Text.isBlank c
  | .lone _ => false

/-- The characters without those at either end that satisfy `p`. -/
def trimBoth (p : Char → Bool) (cs : List Char) : List Char :=
  ((cs.dropWhile p).reverse.dropWhile p).reverse

/-- The characters without the blanks at either end. -/
def trim (cs : List Char) : List Char :=
  trimBoth isBlank cs

/-- The text without the blanks at its end. -/
def trimEnd : Text → Text
  | whole s => whole (String.ofList (s.toList.reverse.dropWhile isBlank).reverse)
  | broken s lone rest => broken s lone (trimEnd rest)

/-- The text without the blanks at either end. -/
def trimmed : Text → Text
  | whole s => whole (String.ofList (trim s.toList))
  | broken s lone rest => broken (String.ofList (s.toList.dropWhile isBlank)) lone (trimEnd rest)

/-- The longest runs of items that are not blank. -/
def words {α : Type} (blank : α → Bool) : List α → List (List α)
  | [] => []
  | a :: rest =>
    if blank a then words blank rest
    else match rest with
      | [] => [[a]]
      | b :: _ =>
        if blank b then [a] :: words blank rest
        else match words blank rest with
          | [] => [[a]]
          | w :: ws => (a :: w) :: ws

theorem isBlank_of_isWhitespace {c : Char} (h : c.isWhitespace = true) : isBlank c = true := by
  simp only [Char.isWhitespace, Bool.or_eq_true, decide_eq_true_eq] at h
  rcases h with ((h | h) | h) | h <;> subst h <;> decide

end PasswordVault.Text
