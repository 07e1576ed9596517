import PasswordVault.Number.Shortest
import PasswordVault.Text.Basic

/-!
# JSON values

Objects keep the order of their members, and a name has one place in an object: writing it again
changes the value and not the place. Integers are exact and of any size, apart from numbers with a
fraction or an exponent, which are of double precision. A surrogate may stand alone in a text, but
not in a name.

* `Members.get?_put_self`, `Members.get?_put_of_ne`: what is found after a member was written.
-/

namespace PasswordVault

/-- A JSON value. A number is a `float` if it is written with a fraction or an exponent; the members
of an object keep their order. -/
inductive Json where
  | null
  | bool (value : Bool)
  | int (value : Int)
  | float (value : Binary64)
  | str (text : Text)
  | arr (items : List Json)
  | obj (members : List (String × Json))
  deriving Repr

namespace Json

instance : Inhabited Json := ⟨.null⟩

abbrev Members := List (String × Json)

namespace Members

/-- The value under a name. -/
def get? (name : String) (members : Members) : Option Json :=
  members.lookup name

/-- The members with the value under a name changed, in its place, or added at the end. -/
def put (members : Members) (name : String) (value : Json) : Members :=
  match members with
  | [] => [(name, value)]
  | (n, v) :: rest => if n = name then (n, value) :: rest else (n, v) :: put rest name value

/-- The members written one after the other into an empty object. -/
def ofList (entries : List (String × Json)) : Members :=
  entries.foldl (fun members (name, value) => members.put name value) []

theorem get?_cons_of_ne {name other : String} (h : other ≠ name) (v : Json) (rest : Members) :
    get? other ((name, v) :: rest) = get? other rest := by
  rw [get?, List.lookup_cons, beq_false_of_ne h, get?]

theorem get?_put_self (members : Members) (name : String) (value : Json) :
    (members.put name value).get? name = some value := by
  induction members with
  | nil => simp [put, get?]
  | cons m rest ih =>
    obtain ⟨n, v⟩ := m
    by_cases h : n = name
    · simp [put, get?, h]
    · rw [put, if_neg h, get?_cons_of_ne (Ne.symm h), ih]

theorem get?_put_of_ne {name other : String} (h : other ≠ name) (members : Members) (value : Json) :
    (members.put name value).get? other = members.get? other := by
  induction members with
  | nil => exact get?_cons_of_ne h value []
  | cons m rest ih =>
    obtain ⟨n, v⟩ := m
    by_cases hn : n = name
    · rw [put, if_pos hn, hn, get?_cons_of_ne h, get?_cons_of_ne h]
    · rw [put, if_neg hn, get?, List.lookup_cons, get?, List.lookup_cons]
      cases other == n with
      | true => rfl
      | false => exact ih

end Members

/-! ### Depth and range -/

mutual

/-- How many lists and objects stand inside each other. -/
def depth : Json → Nat
  | .arr items => depthItems items + 1
  | .obj members => depthMembers members + 1
  | _ => 0

def depthItems : List Json → Nat
  | [] => 0
  | v :: rest => max (depth v) (depthItems rest)

def depthMembers : List (String × Json) → Nat
  | [] => 0
  | (_, v) :: rest => max (depth v) (depthMembers rest)

end

mutual

/-- How many values stand inside each other, the innermost ones included. -/
def levels : Json → Nat
  | .arr items => levelsItems items + 1
  | .obj members => levelsMembers members + 1
  | _ => 1

def levelsItems : List Json → Nat
  | [] => 0
  | v :: rest => max (levels v) (levelsItems rest)

def levelsMembers : List (String × Json) → Nat
  | [] => 0
  | (_, v) :: rest => max (levels v) (levelsMembers rest)

end

/-- The integers that documents hold: those of 64 bits, with or without a sign. -/
def isWordSized (n : Int) : Bool :=
  -(Nat.pow 2 63 : Int) ≤ n && n < (Nat.pow 2 64 : Int)

mutual

/-- Whether documents hold every integer and every text in the value. -/
def isWritable : Json → Bool
  | .int n => isWordSized n
  | .str text => text.isWhole
  | .arr items => isWritableItems items
  | .obj members => isWritableMembers members
  | _ => true

def isWritableItems : List Json → Bool
  | [] => true
  | v :: rest => isWritable v && isWritableItems rest

def isWritableMembers : List (String × Json) → Bool
  | [] => true
  | (_, v) :: rest => isWritable v && isWritableMembers rest

end

end Json

end PasswordVault
