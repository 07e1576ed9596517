import PasswordVault.Text.Basic
import PasswordVault.Text.PrintableTable

/-!
# Quoting a text in an error

A text is quoted with single quotes, or with double ones if it has a single quote and no double one.
The quote itself, the backslash, the characters that are not shown and the surrogates that stand
alone are escaped.
-/

namespace PasswordVault.Text

/-- The hexadecimal digits of a number, filled up with zeros to a width. -/
def hexPadded (width n : Nat) : List Char :=
  let ds := Nat.toDigits 16 n
  List.replicate (width - ds.length) '0' ++ ds

def isShown (c : Char) : Bool :=
  !CaseTable.inSpans PrintableTable.hiddenSpans c.toNat

/-- A character between quotes. -/
def escapeQuoted (quote c : Char) : List Char :=
  if c = quote ∨ c = '\\' then ['\\', c]
  else if c = '\t' then ['\\', 't']
  else if c = '\n' then ['\\', 'n']
  else if c = '\r' then ['\\', 'r']
  else if isShown c then [c]
  else if c.toNat < 0x100 then '\\' :: 'x' :: hexPadded 2 c.toNat
  else if c.toNat < 0x10000 then '\\' :: 'u' :: hexPadded 4 c.toNat
  else '\\' :: 'U' :: hexPadded 8 c.toNat

/-- The quotes that a text is put between. -/
def quoteFor (cs : List Char) : Char :=
  if cs.contains '\'' && !cs.contains '"' then '"' else '\''

/-- What stands between the quotes of a text. -/
def escapeText (quote : Char) : Text → List Char
  | whole s => s.toList.flatMap (escapeQuoted quote)
  | broken s lone rest =>
    s.toList.flatMap (escapeQuoted quote) ++ '\\' :: 'u' :: hexPadded 4 lone.code
      ++ escapeText quote rest

def quoted (text : Text) : List Char :=
  let quote := quoteFor text.characters
  quote :: escapeText quote text ++ [quote]

end PasswordVault.Text
