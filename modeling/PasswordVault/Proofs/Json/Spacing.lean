import PasswordVault.Json.Parser
import PasswordVault.Json.Printer
import Mathlib.Data.Nat.Notation

/-!
# Blanks between tokens

The compact text of a value and the laid out one have the same tokens and differ in the blanks
between them. Both are instances of one text with the blanks as a parameter, so what is said about
reading it is said about both.

* `Spacing`: the blanks in front of items, members and brackets, and those behind colons;
* `spaced`: the text of a value, `compact_eq_spaced` and `layOut_eq_spaced` for the two in use.
-/

namespace PasswordVault.Json

/-- Where blanks stand in a text: `before` an item or a member of a level and the bracket after the
last, and `behind` a colon. -/
structure Spacing where
  before : ℕ → List Char
  behind : List Char
  isBlank_before : ∀ level, ∀ c ∈ before level, isBlank c = true
  isBlank_behind : ∀ c ∈ behind, isBlank c = true

def Spacing.none : Spacing where
  before _ := []
  behind := []
  isBlank_before _ _ hc := absurd hc List.not_mem_nil
  isBlank_behind _ hc := absurd hc List.not_mem_nil

theorem isBlank_of_mem_newLine {level : ℕ} {c : Char} (h : c ∈ newLine level) :
    isBlank c = true := by
  rcases List.mem_cons.mp h with rfl | h
  · rfl
  · rw [List.eq_of_mem_replicate h]
    rfl

/-- A line for each item and member. -/
def Spacing.lines : Spacing where
  before := newLine
  behind := [' ']
  isBlank_before _ _ := isBlank_of_mem_newLine
  isBlank_behind c hc := by
    rw [List.mem_singleton.mp hc]
    rfl

mutual

/-- The text of a value at a level, with blanks between its tokens. -/
def spaced (sp : Spacing) (level : ℕ) : Json → List Char
  | .arr [] => ['[', ']']
  | .arr items => '[' :: spacedItems sp (level + 1) items ++ sp.before level ++ [']']
  | .obj [] => ['\x7b', '\x7d']
  | .obj members => '\x7b' :: spacedMembers sp (level + 1) members ++ sp.before level ++ ['\x7d']
  | v => scalar v

def spacedItems (sp : Spacing) (level : ℕ) : List Json → List Char
  | [] => []
  | [v] => sp.before level ++ spaced sp level v
  | v :: rest => sp.before level ++ spaced sp level v ++ ',' :: spacedItems sp level rest

def spacedMembers (sp : Spacing) (level : ℕ) : List (String × Json) → List Char
  | [] => []
  | [(name, v)] => sp.before level ++ quote name ++ ':' :: (sp.behind ++ spaced sp level v)
  | (name, v) :: rest => sp.before level ++ quote name ++ ':' :: (sp.behind ++ spaced sp level v) ++
    ',' :: spacedMembers sp level rest

end

/-! ### The texts in use -/

mutual

/-- The compact text has no blanks. -/
theorem compact_eq_spaced (level : ℕ) : ∀ v, compact v = spaced .none level v
  | .arr [] => rfl
  | .arr (v :: vs) => by
    rw [compact, spaced, compactItems_eq_spacedItems (level + 1), Spacing.none, List.append_nil]
    nofun
  | .obj [] => rfl
  | .obj (m :: ms) => by
    rw [compact, spaced, compactMembers_eq_spacedMembers (level + 1), Spacing.none, List.append_nil]
    nofun
  | .null | .bool _ | .int _ | .float _ | .str _ => rfl

theorem compactItems_eq_spacedItems (level : ℕ) :
    ∀ vs, compactItems vs = spacedItems .none level vs
  | [] => rfl
  | [v] => by rw [compactItems, spacedItems, compact_eq_spaced level]; rfl
  | v :: w :: ws => by
    rw [compactItems, spacedItems, compact_eq_spaced level, compactItems_eq_spacedItems level]
    all_goals first | rfl | nofun

theorem compactMembers_eq_spacedMembers (level : ℕ) :
    ∀ ms, compactMembers ms = spacedMembers .none level ms
  | [] => rfl
  | [(name, v)] => by rw [compactMembers, spacedMembers, compact_eq_spaced level]; rfl
  | (name, v) :: m :: ms => by
    rw [compactMembers, spacedMembers, compact_eq_spaced level,
      compactMembers_eq_spacedMembers level]
    all_goals first | rfl | nofun

end

mutual

/-- The laid out text has a line for each item and member. -/
theorem layOut_eq_spaced (level : ℕ) : ∀ v, layOut level v = spaced .lines level v
  | .arr [] => rfl
  | .arr (v :: vs) => by
    rw [layOut, spaced, layOutItems_eq_spacedItems]
    all_goals first | rfl | nofun
  | .obj [] => rfl
  | .obj (m :: ms) => by
    rw [layOut, spaced, layOutMembers_eq_spacedMembers]
    all_goals first | rfl | nofun
  | .null | .bool _ | .int _ | .float _ | .str _ => rfl

theorem layOutItems_eq_spacedItems (level : ℕ) :
    ∀ vs, layOutItems level vs = spacedItems .lines level vs
  | [] => rfl
  | [v] => by rw [layOutItems, spacedItems, layOut_eq_spaced]; rfl
  | v :: w :: ws => by
    rw [layOutItems, spacedItems, layOut_eq_spaced, layOutItems_eq_spacedItems]
    all_goals first | rfl | nofun

theorem layOutMembers_eq_spacedMembers (level : ℕ) :
    ∀ ms, layOutMembers level ms = spacedMembers .lines level ms
  | [] => rfl
  | [(name, v)] => by rw [layOutMembers, spacedMembers, layOut_eq_spaced]; rfl
  | (name, v) :: m :: ms => by
    rw [layOutMembers, spacedMembers, layOut_eq_spaced, layOutMembers_eq_spacedMembers]
    all_goals first | rfl | nofun

end

end PasswordVault.Json
