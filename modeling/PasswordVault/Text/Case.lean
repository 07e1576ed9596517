import PasswordVault.Text.CaseTable

/-!
# Lower and upper case

The case mappings of whole texts. A letter can have several letters as its other form, and the
lower-case form of a capital sigma depends on where it stands: at the end of a word it is the final
sigma.
-/

namespace PasswordVault.Text

def capitalSigma : Char := Char.ofNat 0x3a3

/-- The lower-case form of a letter that does not depend on its neighbours. -/
def lowerChar (c : Char) : List Char :=
  if c.toNat = 0x130 then ['i', Char.ofNat 0x307]
  else [Char.ofNat (CaseTable.shift CaseTable.lowerShifts c.toNat)]

def upperChar (c : Char) : List Char :=
  match CaseTable.upperStrings.lookup c.toNat with
  | some codes => codes.map Char.ofNat
  | none => [Char.ofNat (CaseTable.shift CaseTable.upperShifts c.toNat)]

/-- Whether the nearest character that is not passed over has case. -/
def nextHasCase (cs : List Char) : Bool :=
  match cs.dropWhile fun c => CaseTable.inSpans CaseTable.ignorableSpans c.toNat with
  | [] => false
  | c :: _ => CaseTable.inSpans CaseTable.casedSpans c.toNat

/-- The form of a capital sigma between the characters before it, from the nearest one on, and after
it. -/
def lowerSigma (before after : List Char) : Char :=
  if nextHasCase before && !nextHasCase after then Char.ofNat 0x3c2 else Char.ofNat 0x3c3

/-- The lower-case form of a text that stands behind some characters, the nearest of them first. -/
def lowerAfter (before : List Char) : List Char → List Char
  | [] => []
  | c :: rest =>
    (if c = capitalSigma then [lowerSigma before rest] else lowerChar c)
      ++ lowerAfter (c :: before) rest

def lower (cs : List Char) : List Char :=
  lowerAfter [] cs

def upper (cs : List Char) : List Char :=
  cs.flatMap upperChar

end PasswordVault.Text
