import PasswordVault.Entropy
import PasswordVault.Hash.Mac
import PasswordVault.Phrase.WordList
import PasswordVault.Text.Blank
import PasswordVault.Text.Case
import PasswordVault.Text.Utf8

/-!
# Recovery phrases

A phrase of twelve words writes sixteen random bytes and, in the last four bits, the start of their
SHA-256 digest. The seed of a vault is stretched from the phrase, so one phrase has one seed. A
phrase is typed in any case and with any blanks between the words.

* `ofEntropy` writes entropy as words, `entropy?` reads it back and checks the digest;
* `normalize` is what is made of a typed phrase before it is read, by `recover`.
-/

namespace PasswordVault

def seedLength : Nat := 32

namespace Phrase

def wordCount : Nat := 12

/-- The length of the entropy in bytes. -/
def entropyLength : Nat := 16

/-- The four bits of the digest that a phrase ends with. -/
def checksum (entropy : Bytes) : Nat :=
  ((Sha256.digest entropy).headD 0).toNat / 16

/-- The base-2048 digits of a number, the most significant first. -/
def places : (count n : Nat) → List Nat
  | 0, _ => []
  | count + 1, n => places count (n / 2048) ++ [n % 2048]

/-- The number with the given base-2048 digits. -/
def number (ds : List Nat) : Nat :=
  ds.foldl (fun n d => n * 2048 + d) 0

/-- The words that write sixteen bytes of entropy. -/
def ofEntropy (entropy : Bytes) : List String :=
  (places wordCount (Bytes.toNatBE entropy * 16 + checksum entropy)).map WordList.word

/-- The entropy that twelve words of the list write, if they end with its checksum. -/
def entropy? (words : List String) : Option Bytes := do
  if words.length ≠ wordCount then none
  else
    let ds ← words.mapM WordList.place?
    let n := number ds
    let entropy := Bytes.ofNatBE entropyLength (n / 16)
    if checksum entropy = n % 16 then return entropy else none

/-- The words as one text, with a space between two of them. -/
def join (words : List String) : String :=
  " ".intercalate words

/-- What stands between the spaces of a phrase. -/
def split (phrase : String) : List String :=
  (phrase.toList.splitOn ' ').map String.ofList

/-- The normal form of a typed phrase: lower case, with one space between the words. -/
def normalize (phrase : Text) : Text :=
  let words := Text.words Text.Point.isBlank (phrase.mapRuns Text.lower).points
  .ofPoints ([.char ' '].intercalate words)

/-- The seed that a phrase in normal form is stretched to. -/
def stretch (phrase : String) : Bytes :=
  (pbkdf2 (Utf8.encode phrase) (Utf8.encode "mnemonic") 2048).take seedLength

/-- A new phrase and its seed. -/
def generate : Draw (String × Bytes) := do
  let entropy ← draw entropyLength
  let phrase := join (ofEntropy entropy)
  return (phrase, stretch phrase)

/-- The seed of a typed phrase. The words of the list consist of characters. -/
def recover (phrase : Text) : Except Error Bytes :=
  match normalize phrase with
  | .whole normal =>
    match entropy? (split normal) with
    | some _ => .ok (stretch normal)
    | none => .error .phrase
  | .broken .. => .error .phrase

end Phrase

end PasswordVault
