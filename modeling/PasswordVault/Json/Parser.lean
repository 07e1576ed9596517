import PasswordVault.Json.Basic
import PasswordVault.Text.Hex

/-!
# Reading JSON

The grammar is the strict one: no comments, no trailing commas, no leading zeros and no control
characters in a text. A member written twice in one object has its first place and its last value.
Numbers without a fraction and an exponent are integers, all others are of double precision. A
dialect says how large numbers may be, how deep lists and objects may stand inside each other, and
whether one half of a surrogate pair may stand in a text.

Every reader takes the characters that are left and returns what it read with what is left then; the
readers of nested values run on fuel, of which one unit for each character is enough.

* `parse?` reads a value in a dialect, `Dialect.document` or `Dialect.exchange`.
-/

namespace PasswordVault.Json

/-- What a text may hold beyond the grammar. Lists and objects stand at most `depth` deep inside
each other. In an unlimited dialect numbers are read whatever their size, integers exactly and
others as infinite values, which may also be written as words, and a surrogate may stand alone in a
text. Otherwise integers beyond 64 bits are read in double precision, all numbers are finite, and
texts consist of characters. -/
structure Dialect where
  depth : Nat
  unlimited : Bool

/-- The dialect of stored documents. -/
def Dialect.document : Dialect := ⟨1024, false⟩

/-- The dialect in which values are handed over. -/
def Dialect.exchange : Dialect := ⟨100000, true⟩

/-- The blanks between tokens. -/
def isBlank (c : Char) : Bool :=
  c = ' ' || c = '\t' || c = '\n' || c = '\r'

/-- The characters from the next token on. -/
def skipBlanks (cs : List Char) : List Char :=
  cs.dropWhile isBlank

/-- The number that four hexadecimal digits write. -/
def codeUnit? (a b c d : Char) : Option Nat := do
  let a ← Hex.value? a
  let b ← Hex.value? b
  let c ← Hex.value? c
  let d ← Hex.value? d
  return ((a * 16 + b) * 16 + c) * 16 + d

/-- The character that an escape of one character stands for. -/
def unescape? (c : Char) : Option Char :=
  if c = '"' ∨ c = '\\' ∨ c = '/' then some c
  else if c = 'b' then some (Char.ofNat 8)
  else if c = 't' then some '\t'
  else if c = 'n' then some '\n'
  else if c = 'f' then some (Char.ofNat 12)
  else if c = 'r' then some '\r'
  else none

/-- The first run of characters in a text, and the runs behind each of its lone surrogates. -/
structure Runs where
  first : List Char
  others : List (Surrogate × List Char)

namespace Runs

def cons (c : Char) (runs : Runs) : Runs :=
  { runs with first := c :: runs.first }

/-- The runs with a surrogate in front. With the other half right behind it, it is a character. -/
def consSurrogate (half : Surrogate) : Runs → Runs
  | ⟨[], (low, next) :: others⟩ =>
    if half.code < 0xDC00 ∧ 0xDC00 ≤ low.code then
      ⟨Char.ofNat (0x10000 + (half.code - 0xD800) * 1024 + (low.code - 0xDC00)) :: next, others⟩
    else ⟨[], (half, []) :: (low, next) :: others⟩
  | ⟨first, others⟩ => ⟨[], (half, first) :: others⟩

/-- The runs with a code unit in front. -/
def consUnit (unit : Nat) (runs : Runs) : Runs :=
  if h : 0xD800 ≤ unit ∧ unit < 0xE000 then runs.consSurrogate ⟨unit, h⟩
  else runs.cons (Char.ofNat unit)

/-- The text that a first run of characters begins, with the runs behind it. -/
def toText (first : List Char) : List (Surrogate × List Char) → Text
  | [] => .whole (String.ofList first)
  | (lone, next) :: others => .broken (String.ofList first) lone (toText next others)

end Runs

/-- The runs of a text up to its closing quote. -/
def textRuns : List Char → Option (Runs × List Char)
  | [] => none
  | '"' :: rest => some (⟨[], []⟩, rest)
  | '\\' :: 'u' :: a :: b :: c :: d :: rest => do
    let unit ← codeUnit? a b c d
    let (runs, rest) ← textRuns rest
    return (runs.consUnit unit, rest)
  | '\\' :: e :: rest => do
    let c ← unescape? e
    let (runs, rest) ← textRuns rest
    return (runs.cons c, rest)
  | c :: rest =>
    if c.toNat < 32 ∨ c = '\\' then none
    else do
      let (runs, rest) ← textRuns rest
      return (runs.cons c, rest)

/-- A text after its opening quote. -/
def text (d : Dialect) (cs : List Char) : Option (Text × List Char) := do
  let (runs, rest) ← textRuns cs
  if d.unlimited ∨ runs.others.isEmpty then return (Runs.toText runs.first runs.others, rest)
  else none

/-- A name after its opening quote. -/
def memberName (cs : List Char) : Option (String × List Char) := do
  let (runs, rest) ← textRuns cs
  if runs.others.isEmpty then return (String.ofList runs.first, rest) else none

/-- The leading decimal digits and what is left. -/
def digits (cs : List Char) : List Char × List Char :=
  (cs.takeWhile Char.isDigit, cs.dropWhile Char.isDigit)

/-- The digits after a decimal point, if there is a point. -/
def fraction : List Char → Option (List Char × List Char)
  | '.' :: rest =>
    let (ds, rest) := digits rest
    if ds.isEmpty then none else some (ds, rest)
  | rest => some ([], rest)

/-- An exponent after its letter. -/
def signedExponent (cs : List Char) : Option (Int × List Char) :=
  let (negative, cs) := match cs with
    | '-' :: rest => (true, rest)
    | '+' :: rest => (false, rest)
    | rest => (false, rest)
  let (ds, rest) := digits cs
  if ds.isEmpty then none
  else some (if negative then -(Text.decimal ds : Int) else Text.decimal ds, rest)

/-- An exponent, if there is one. -/
def exponent : List Char → Option (Option Int × List Char)
  | 'e' :: rest | 'E' :: rest => (signedExponent rest).map fun (e, rest) => (some e, rest)
  | rest => some (none, rest)

/-- A number of double precision, which is finite unless the dialect is unlimited. -/
def Dialect.float? (d : Dialect) : Binary64 → Option Json
  | .finite negative significand exponent => some (.float (.finite negative significand exponent))
  | x => if d.unlimited then some (.float x) else none

/-- An integer, in double precision if it has more than 64 bits and the dialect is limited. -/
def Dialect.integer? (d : Dialect) (n : Int) : Option Json :=
  if d.unlimited ∨ isWordSized n then some (.int n) else d.float? (Binary64.ofInt n)

/-- A number without its sign. -/
def unsignedNumber (d : Dialect) (negative : Bool) (cs : List Char) :
    Option (Json × List Char) := do
  let (whole, rest) := digits cs
  if whole.isEmpty ∨ (whole.head? = some '0' ∧ whole.length > 1) then none
  else
    let (places, rest) ← fraction rest
    let (power, rest) ← exponent rest
    let v ←
      if places.isEmpty ∧ power.isNone then
        d.integer? (if negative then -(Text.decimal whole : Int) else Text.decimal whole)
      else
        d.float? (Binary64.ofScientific negative (Text.decimal (whole ++ places))
          (power.getD 0 - (places.length : Int)))
    return (v, rest)

def word (expected : List Char) (value : Json) (cs : List Char) : Option (Json × List Char) :=
  if expected.isPrefixOf cs then some (value, cs.drop expected.length) else none

/-- A number that is not finite, if the dialect has words for them. -/
def nonFinite (d : Dialect) (negative : Bool) : List Char → Option (Json × List Char)
  | 'I' :: rest =>
    if d.unlimited then word "nfinity".toList (.float (.infinite negative)) rest else none
  | 'N' :: rest =>
    if d.unlimited ∧ !negative then word "aN".toList (.float .notANumber) rest else none
  | _ => none

def number (d : Dialect) (cs : List Char) : Option (Json × List Char) :=
  let (negative, rest) := match cs with
    | '-' :: rest => (true, rest)
    | rest => (false, rest)
  match nonFinite d negative rest with
  | some found => some found
  | none => unsignedNumber d negative rest

mutual

/-- A value that starts right here. -/
def value (d : Dialect) (fuel depth : Nat) (cs : List Char) : Option (Json × List Char) :=
  match fuel with
  | 0 => none
  | fuel + 1 =>
    match cs with
    | '\x7b' :: rest =>
      match depth with
      | 0 => none
      | depth + 1 =>
        match skipBlanks rest with
        | '\x7d' :: rest => some (.obj [], rest)
        | rest => (members d fuel depth rest).map fun (ms, rest) => (.obj (Members.ofList ms), rest)
    | '[' :: rest =>
      match depth with
      | 0 => none
      | depth + 1 =>
        match skipBlanks rest with
        | ']' :: rest => some (.arr [], rest)
        | rest => (items d fuel depth rest).map fun (vs, rest) => (.arr vs, rest)
    | '"' :: rest => (text d rest).map fun (s, rest) => (.str s, rest)
    | 't' :: rest => word "rue".toList (.bool true) rest
    | 'f' :: rest => word "alse".toList (.bool false) rest
    | 'n' :: rest => word "ull".toList .null rest
    | rest => number d rest

/-- The items of a list up to its closing bracket. -/
def items (d : Dialect) (fuel depth : Nat) (cs : List Char) : Option (List Json × List Char) :=
  match fuel with
  | 0 => none
  | fuel + 1 => do
    let (v, rest) ← value d fuel depth cs
    match skipBlanks rest with
    | ',' :: rest =>
      let (vs, rest) ← items d fuel depth (skipBlanks rest)
      return (v :: vs, rest)
    | ']' :: rest => return ([v], rest)
    | _ => none

/-- The members of an object up to its closing brace. -/
def members (d : Dialect) (fuel depth : Nat) (cs : List Char) :
    Option (List (String × Json) × List Char) :=
  match fuel with
  | 0 => none
  | fuel + 1 =>
    match cs with
    | '"' :: rest => do
      let (name, rest) ← memberName rest
      match skipBlanks rest with
      | ':' :: rest =>
        let (v, rest) ← value d fuel depth (skipBlanks rest)
        match skipBlanks rest with
        | ',' :: rest =>
          let (ms, rest) ← members d fuel depth (skipBlanks rest)
          return ((name, v) :: ms, rest)
        | '\x7d' :: rest => return ([(name, v)], rest)
        | _ => none
      | _ => none
    | _ => none

end

/-- The value that the characters write. -/
def parse? (d : Dialect) (cs : List Char) : Option Json := do
  let (v, rest) ← value d (cs.length + 1) d.depth (skipBlanks cs)
  if (skipBlanks rest).isEmpty then return v else none

end PasswordVault.Json
