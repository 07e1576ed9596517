import PasswordVault.Json.Field

/-!
# Values handed over

What an operation works on is handed over either as a value that was read before or as JSON that has
yet to be read.
-/

namespace PasswordVault

/-- A value, or JSON that stands for one. -/
inductive Given (α : Type) where
  | value (a : α)
  | json (v : Json)

/-- The value, read if it has yet to be read. -/
def Given.read {α : Type} (ofJson : Json → Checked α) : Given α → Checked α
  | .value a => .accepted a
  | .json v => ofJson v

end PasswordVault
