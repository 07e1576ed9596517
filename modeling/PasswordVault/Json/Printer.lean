import PasswordVault.Json.Basic

/-!
# Writing JSON

Texts are written with as few escapes as the grammar allows: the quote, the backslash, the control
characters below the space, and surrogates that stand alone, which no document has. A document is
either compact, without any blanks, or laid out, with a line for each item and member and two blanks
for each level.
-/

namespace PasswordVault.Json

def hexDigit (n : Nat) : Char :=
  if n < 10 then Char.ofNat (48 + n) else Char.ofNat (87 + n)

/-- A character inside a quoted text. -/
def escape (c : Char) : List Char :=
  if c = '"' then ['\\', '"']
  else if c = '\\' then ['\\', '\\']
  else if c.toNat < 32 then
    if c.toNat = 8 then ['\\', 'b']
    else if c.toNat = 9 then ['\\', 't']
    else if c.toNat = 10 then ['\\', 'n']
    else if c.toNat = 12 then ['\\', 'f']
    else if c.toNat = 13 then ['\\', 'r']
    else ['\\', 'u', '0', '0', hexDigit (c.toNat / 16), hexDigit (c.toNat % 16)]
  else [c]

/-- The escape of a code point with four digits. -/
def escapeUnit (n : Nat) : List Char :=
  ['\\', 'u', hexDigit (n / 4096), hexDigit (n / 256 % 16), hexDigit (n / 16 % 16),
    hexDigit (n % 16)]

/-- What stands between the quotes of a text. -/
def escapeText : Text → List Char
  | .whole s => s.toList.flatMap escape
  | .broken s lone rest => s.toList.flatMap escape ++ escapeUnit lone.code ++ escapeText rest

def quote (text : Text) : List Char :=
  '"' :: escapeText text ++ ['"']

/-- The decimal digits of an integer, with a sign if it is negative. -/
def integer (n : Int) : List Char :=
  if n < 0 then '-' :: Nat.toDigits 10 n.natAbs else Nat.toDigits 10 n.natAbs

/-- The text of a value that is neither a list nor an object. -/
def scalar : Json → List Char
  | .bool true => "true".toList
  | .bool false => "false".toList
  | .int n => integer n
  | .float (.finite negative significand exponent) =>
    Binary64.render .json (.finite negative significand exponent)
  | .str text => quote text
  | _ => "null".toList

mutual

/-- The compact text of a value. -/
def compact : Json → List Char
  | .arr items => '[' :: compactItems items ++ [']']
  | .obj members => '\x7b' :: compactMembers members ++ ['\x7d']
  | v => scalar v

def compactItems : List Json → List Char
  | [] => []
  | [v] => compact v
  | v :: rest => compact v ++ ',' :: compactItems rest

def compactMembers : List (String × Json) → List Char
  | [] => []
  | [(name, v)] => quote name ++ ':' :: compact v
  | (name, v) :: rest => quote name ++ ':' :: compact v ++ ',' :: compactMembers rest

end

def newLine (level : Nat) : List Char :=
  '\n' :: List.replicate (2 * level) ' '

mutual

/-- The laid out text of a value at a level. -/
def layOut (level : Nat) : Json → List Char
  | .arr [] => ['[', ']']
  | .arr items => '[' :: layOutItems (level + 1) items ++ newLine level ++ [']']
  | .obj [] => ['\x7b', '\x7d']
  | .obj members => '\x7b' :: layOutMembers (level + 1) members ++ newLine level ++ ['\x7d']
  | v => scalar v

def layOutItems (level : Nat) : List Json → List Char
  | [] => []
  | [v] => newLine level ++ layOut level v
  | v :: rest => newLine level ++ layOut level v ++ ',' :: layOutItems level rest

def layOutMembers (level : Nat) : List (String × Json) → List Char
  | [] => []
  | [(name, v)] => newLine level ++ quote name ++ ':' :: ' ' :: layOut level v
  | (name, v) :: rest =>
    newLine level ++ quote name ++ ':' :: ' ' :: layOut level v ++ ',' :: layOutMembers level rest

end

def toCompactText (v : Json) : String :=
  String.ofList (compact v)

def toLaidOutText (v : Json) : String :=
  String.ofList (layOut 0 v)

end PasswordVault.Json
