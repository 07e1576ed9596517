import PasswordVault.Bytes
import PasswordVault.Error
import PasswordVault.Text.Basic

/-!
# UTF-8

Passwords, payloads and addresses enter the cryptography as UTF-8. `encode` writes the characters of
a string, `encodeText` those of a text, which may have none, and `decode?` reads them back and
refuses every byte string that no string writes.

* `decode?_encode`: what was written is read back;
* `encodeText_eq_error_iff`: the texts that have no UTF-8 form.
-/

namespace PasswordVault.Utf8

/-- The UTF-8 form of a string. -/
def encode (s : String) : Bytes :=
  s.toList.flatMap String.utf8EncodeChar

/-- The UTF-8 form of a text. A surrogate that stands alone has none. -/
def encodeText : Text → Except Error Bytes
  | .whole s => .ok (encode s)
  | .broken .. => .error .unencodable

/-- The string that a byte string writes in UTF-8, if it writes one. -/
def decode? (bs : Bytes) : Option String :=
  bs.toByteArray.utf8Decode?.map fun cs => String.ofList cs.toList

theorem decode?_encode (s : String) : decode? (encode s) = some s := by
  have h : (encode s).toByteArray = s.toList.utf8Encode := rfl
  rw [decode?, h, List.utf8Decode?_utf8Encode]
  simp

theorem encodeText_eq_error_iff {text : Text} {e : Error} :
    encodeText text = .error e ↔ text.isWhole = false ∧ e = .unencodable := by
  cases text <;> simp [encodeText, Text.isWhole, eq_comm]

end PasswordVault.Utf8
