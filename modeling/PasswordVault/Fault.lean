import PasswordVault.Text.Basic

/-!
# Refused inputs

A value from outside is checked field by field. What is wrong with it is a list of faults, each with
the path to the refused part and the reason. Reasons are the shapes and bounds a field can miss, or
one of the rules of the vault, which carry the values they were broken by.
-/

namespace PasswordVault

/-- One step from a value into a part of it, a member of an object or an item of a list. -/
inductive Step where
  | key (name : String)
  | item (index : Nat)
  deriving DecidableEq, Repr

/-- A rule of the vault that a well-shaped value can break. In `memoryPerLane`, `label` is the name
that the memory was given under. -/
inductive Rule where
  | memoryPerLane (label : String) (memory lanes : Int)
  | cipherBackend (name : Text)
  | schemaVersion (version : Int)
  | emptyEmail
  deriving DecidableEq, Repr

def Rule.message : Rule → String
  | .memoryPerLane label memory lanes =>
    s!"{label} ({memory} KiB) must be at least 8 * parallelism ({8 * lanes} KiB)"
  | .cipherBackend name => s!"Unsupported cipher backend: {name.shown}"
  | .schemaVersion version => s!"Unsupported payload schema version: {version}"
  | .emptyEmail => "Contact email cannot be empty"

/-- Why a part of a value was refused: absent, of another shape (`notText` to `numberText`), out of
bounds, none of the expected constants, no collection or no time, or against a rule. `notUnicode` is
a text in which a surrogate stands alone where characters are read. -/
inductive Refusal where
  | missing
  | notText
  | notUnicode
  | notInteger
  | integerText
  | integerSize
  | notFinite
  | fractional
  | notNumber
  | numberText
  | notAbove
  | below
  | above
  | unexpected
  | notList
  | notObject
  | notRecord
  | notTime
  | rule (rule : Rule)
  deriving DecidableEq, Repr

/-- A refused part of a value: the path to it and why it was refused. -/
structure Fault where
  path : List Step
  refusal : Refusal
  deriving DecidableEq, Repr

/-- The fault seen from one step further out. -/
def Fault.under (step : Step) (fault : Fault) : Fault :=
  { fault with path := step :: fault.path }

/-- The outcome of checking a value: the value it stands for, or all that is wrong with it. -/
inductive Checked (α : Type) where
  | accepted (value : α)
  | refused (faults : List Fault)
  deriving Repr

namespace Checked

variable {α β : Type}

/-- A single reason against the whole value. -/
def refuse (refusal : Refusal) : Checked α :=
  .refused [⟨[], refusal⟩]

def map (f : α → β) : Checked α → Checked β
  | .accepted a => .accepted (f a)
  | .refused faults => .refused faults

/-- Both outcomes together; the faults of the first come first. -/
def seq : Checked (α → β) → Checked α → Checked β
  | .accepted f, .accepted a => .accepted (f a)
  | .accepted _, .refused faults => .refused faults
  | .refused faults, .accepted _ => .refused faults
  | .refused faults, .refused more => .refused (faults ++ more)

/-- A further check of an accepted value. -/
def andThen (check : α → Checked β) : Checked α → Checked β
  | .accepted a => check a
  | .refused faults => .refused faults

/-- The outcome for a part, seen from the whole. -/
def under (step : Step) : Checked α → Checked α
  | .accepted a => .accepted a
  | .refused faults => .refused (faults.map (Fault.under step))

def toOption : Checked α → Option α
  | .accepted a => some a
  | .refused _ => none

instance : Functor Checked where
  map := map

instance : Applicative Checked where
  pure := .accepted
  seq f a := seq f (a ())

/-- All outcomes of a list, numbered from `index`, as one outcome for the list. -/
def listFrom (check : β → Checked α) : (index : Nat) → List β → Checked (List α)
  | _, [] => .accepted []
  | index, b :: rest =>
    List.cons <$> (check b).under (.item index) <*> listFrom check (index + 1) rest

def list (check : β → Checked α) (items : List β) : Checked (List α) :=
  listFrom check 0 items

end Checked

end PasswordVault
