/-!
# Texts

What callers and JSON hand over as a text is a sequence of code points. Nearly always they are
characters, but a surrogate may stand alone among them, one half of a pair without the other, which
is no character. A text is kept by the runs of characters between its lone surrogates, so that one
without any is a string, and one that is broken is told from it by its constructor.

* `Text.whole`: the texts that consist of characters;
* `Text.mapRuns`: a text changed run by run, `mapRuns_idem`: twice;
* `Text.points`, `Text.ofPoints`: a text as a list of code points, `points_ofPoints`: and back.
-/

namespace PasswordVault

/-- A surrogate code point. -/
structure Surrogate where
  code : Nat
  inRange : 0xD800 ≤ code ∧ code < 0xE000
  deriving DecidableEq, Repr

/-- A text: a string, or what stands before its first lone surrogate, the surrogate, and the text
behind it. -/
inductive Text where
  | whole (string : String)
  | broken (before : String) (lone : Surrogate) (after : Text)
  deriving DecidableEq, Repr

instance : Coe String Text := ⟨Text.whole⟩

namespace Text

/-- One place in a text, which has a character or a surrogate that stands alone. -/
inductive Point where
  | char (c : Char)
  | lone (half : Surrogate)
  deriving DecidableEq, Repr

/-- Whether no surrogate stands alone. -/
def isWhole : Text → Bool
  | whole _ => true
  | broken .. => false

/-- The text with each run of characters changed by `f`. -/
def mapRuns (f : List Char → List Char) : Text → Text
  | whole s => whole (String.ofList (f s.toList))
  | broken s lone rest => broken (String.ofList (f s.toList)) lone (mapRuns f rest)

/-- The characters of a text, without its surrogates. -/
def characters : Text → List Char
  | whole s => s.toList
  | broken s _ rest => s.toList ++ rest.characters

/-- The text as a string, with replacement characters for the three bytes that a lone surrogate
would take. -/
def shown : Text → String
  | whole s => s
  | broken s _ rest => s ++ "\uFFFD\uFFFD\uFFFD" ++ rest.shown

def points : Text → List Point
  | whole s => s.toList.map .char
  | broken s half rest => s.toList.map .char ++ .lone half :: rest.points

/-- The text with a character in front. -/
def cons (c : Char) : Text → Text
  | whole s => whole (String.ofList (c :: s.toList))
  | broken s half rest => broken (String.ofList (c :: s.toList)) half rest

def ofPoints : List Point → Text
  | [] => whole ""
  | .char c :: rest => (ofPoints rest).cons c
  | .lone half :: rest => broken "" half (ofPoints rest)

/-- The number that decimal digits write. -/
def decimal (ds : List Char) : Nat :=
  ds.foldl (fun n c => n * 10 + (c.toNat - 48)) 0

/-- The text of one surrogate and nothing else. -/
def lone : Text := broken "" ⟨0xD800, by decide⟩ (whole "")

@[simp] theorem isWhole_whole (s : String) : (whole s).isWhole = true := rfl

theorem isWhole_iff {text : Text} : text.isWhole = true ↔ ∃ s, text = whole s := by
  cases text <;> simp [isWhole]

theorem isWhole_mapRuns (f : List Char → List Char) (text : Text) :
    (text.mapRuns f).isWhole = text.isWhole := by
  cases text <;> rfl

theorem points_cons (c : Char) (text : Text) : (text.cons c).points = .char c :: text.points := by
  cases text <;> simp [cons, points]

theorem points_ofPoints (ps : List Point) : (ofPoints ps).points = ps := by
  induction ps with
  | nil => rfl
  | cons p ps ih =>
    cases p with
    | char c => rw [ofPoints, points_cons, ih]
    | lone half => simp [ofPoints, points, ih]

theorem ofPoints_map_char (cs : List Char) : ofPoints (cs.map .char) = whole (String.ofList cs) := by
  induction cs with
  | nil => rfl
  | cons c cs ih => rw [List.map_cons, ofPoints, ih, cons, String.toList_ofList]

theorem mapRuns_idem {f : List Char → List Char} (h : ∀ cs, f (f cs) = f cs) (text : Text) :
    (text.mapRuns f).mapRuns f = text.mapRuns f := by
  induction text with
  | whole s => simp only [mapRuns, String.toList_ofList, h]
  | broken s lone rest ih => simp only [mapRuns, String.toList_ofList, h, ih]

end Text

end PasswordVault
