import PasswordVault.Fault
import PasswordVault.Json.Basic
import PasswordVault.Number.Written
import PasswordVault.Time.Stored

/-!
# Reading fields

A field takes every value that clearly stands for what it holds: an integer may be given as a text
or as a number without a fraction, a point in time as a text or as a count. Bounds are checked
afterwards. A field has one name that it is written under, and may have a second one that is read
when the first is absent; faults are reported under the name that was found.

* `asText`, `asInteger`, `asBounded`, `asNatural`, `asNumber`, `asTimestamp`, `asList` and
  `asObject` read a value;
* `required` and `optional` read a field of an object, `asRecord` the object around the fields.
-/

namespace PasswordVault.Json

/-! ### Values -/

def asText : Json → Checked Text
  | .str text => .accepted text
  | _ => .refuse .notText

/-- The integer that a finite number without a fraction is, if it fits 64 bits. -/
def integerOf (x : Binary64) : Checked Int :=
  match x.ratio? with
  | none => .refuse .notFinite
  | some (num, den) =>
    if num % den ≠ 0 then .refuse .fractional
    else if (num / den).natAbs < Nat.pow 2 63 then .accepted (num / den)
    else .refuse .integerSize

def asInteger : Json → Checked Int
  | .int n => .accepted n
  | .bool b => .accepted (if b then 1 else 0)
  | .float x => integerOf x
  | .str (.broken ..) => .refuse .notUnicode
  | .str (.whole text) =>
    if Written.isTooLong text.toList then .refuse .integerSize
    else match Written.integer? text.toList with
      | some n => .accepted n
      | none => .refuse .integerText
  | _ => .refuse .notInteger

def within (least greatest : Nat) (n : Int) : Checked Int :=
  if n < least then .refuse .below
  else if n > greatest then .refuse .above
  else .accepted n

def asBounded (least greatest : Nat) (v : Json) : Checked Int :=
  v.asInteger.andThen (within least greatest)

/-- A natural number between two bounds. -/
def asNatural (least greatest : Nat) (v : Json) : Checked Nat :=
  Int.toNat <$> v.asBounded least greatest

/-- The number of double precision nearest to an integer, if it is finite. -/
def numberOf (n : Int) : Checked Binary64 :=
  match Binary64.ofInt n with
  | .finite negative significand exponent => .accepted (.finite negative significand exponent)
  | _ => .refuse .notNumber

def asNumber : Json → Checked Binary64
  | .int n => numberOf n
  | .bool b => .accepted (.ofInt (if b then 1 else 0))
  | .float x => .accepted x
  | .str (.broken ..) => .refuse .notUnicode
  | .str (.whole text) =>
    match Written.number? text.toList with
    | some x => .accepted x
    | none => .refuse .numberText
  | _ => .refuse .notNumber

def asPositive (v : Json) : Checked Binary64 :=
  v.asNumber.andThen fun x => if x.isPositive then .accepted x else .refuse .notAbove

/-- The point in time that a text or a count of seconds or milliseconds stands for. -/
def timestamp? : Json → Option Timestamp
  | .str (.whole text) => Timestamp.ofText? text
  | .int n =>
    if n.natAbs < Nat.pow 2 63 then Timestamp.ofCount? n else Timestamp.ofNumber? (.ofInt n)
  | .float x => Timestamp.ofNumber? x
  | _ => none

/-- Why a value is no point in time. -/
def noTimestamp : Json → Refusal
  | .str (.broken ..) => .notUnicode
  | _ => .notTime

def asTimestamp (v : Json) : Checked Timestamp :=
  match v.timestamp? with
  | some t => .accepted t
  | none => .refuse v.noTimestamp

/-- The text that stands for the only value, or for one of the values, that a field can have. -/
def asConstant {α : Type} (ofText? : String → Option α) : Json → Checked α
  | .str (.broken ..) => .refuse .notUnicode
  | .str (.whole text) =>
    match ofText? text with
    | some a => .accepted a
    | none => .refuse .unexpected
  | _ => .refuse .unexpected

/-- The number one, as an integer, as a truth value or with a point. -/
def asOne : Json → Checked Unit
  | .int n => if n = 1 then .accepted () else .refuse .unexpected
  | .bool b => if b then .accepted () else .refuse .unexpected
  | .float x => if x = .ofInt 1 then .accepted () else .refuse .unexpected
  | _ => .refuse .unexpected

/-- A list of values that are read one by one. -/
def asList {α : Type} (read : Json → Checked α) : Json → Checked (List α)
  | .arr items => Checked.list read items
  | _ => .refuse .notList

/-- An object with arbitrary members. -/
def asObject : Json → Checked Members
  | .obj members => .accepted members
  | _ => .refuse .notObject

/-- An object whose fields are read together. -/
def asRecord {α : Type} (read : Members → Checked α) : Json → Checked α
  | .obj members => read members
  | _ => .refuse .notRecord

/-! ### Fields -/

/-- The name that a field is written under, and the one that is read when the first is absent. -/
structure Label where
  name : String
  other : String

/-- A name that is the only one of its field. -/
instance : Coe String Label := ⟨fun name => ⟨name, name⟩⟩

namespace Members

/-- The name that a field is found under, and its value. -/
def find? (members : Members) (label : Label) : Option (String × Json) :=
  match members.get? label.name with
  | some v => some (label.name, v)
  | none => (members.get? label.other).map fun v => (label.other, v)

/-- A field that has to be there. -/
def required {α : Type} (members : Members) (label : Label) (read : Json → Checked α) : Checked α :=
  match members.find? label with
  | some (name, v) => (read v).under (.key name)
  | none => .refused [⟨[.key label.name], .missing⟩]

/-- A field that has a value when it is absent. -/
def optional {α : Type} (members : Members) (label : Label) (read : Json → Checked α) (absent : α) :
    Checked α :=
  match members.find? label with
  | some (name, v) => (read v).under (.key name)
  | none => .accepted absent

end Members

end PasswordVault.Json
