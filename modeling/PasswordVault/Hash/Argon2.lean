import PasswordVault.Error
import PasswordVault.Hash.Blake2b

/-!
# Argon2id

A password is stretched by filling a memory of 1 KiB blocks: lanes of columns, each lane in four
slices. A new block is compressed from the one before it and from a reference block. In the first
half of the first pass the references follow from counters alone, after that from the block before.
Version 1.3: later passes add to the old block.

* `Costs.check` says which settings are accepted; `derive` gives 32 bytes for accepted settings.
-/

namespace PasswordVault.Argon2

/-- How much work a derivation is: the memory in KiB, the passes over it and the lanes. -/
structure Costs where
  memory : Int
  passes : Int
  lanes : Int
  deriving DecidableEq, Repr

/-- The number of words of 32 bits. -/
def wordCount : Int := 4294967296

/-- Whether all settings are words of 32 bits. -/
def Costs.AreWords (costs : Costs) : Prop :=
  ∀ n ∈ [costs.memory, costs.passes, costs.lanes], 0 ≤ n ∧ n < wordCount

instance (costs : Costs) : Decidable costs.AreWords :=
  inferInstanceAs (Decidable (∀ n ∈ _, _))

def greatestLanes : Int := 0xffffff

/-- The memory in KiB that can be had, 64 GiB. -/
def greatestMemory : Int := 67108864

/-- Whether the settings are accepted; the memory is looked at before the passes, and those before
the lanes. The memory that the lanes need is reckoned in words of 32 bits. -/
def Costs.check (costs : Costs) : Except Error Unit :=
  if ¬ costs.AreWords then .error .costRange
  else if costs.memory < 8 ∨ costs.memory < 8 * costs.lanes % wordCount then .error (.cost .memory)
  else if costs.passes < 1 then .error (.cost .time)
  else if costs.lanes < 1 then .error (.cost .lanes)
  else if costs.lanes > greatestLanes then .error (.cost .manyLanes)
  else if costs.memory > greatestMemory then .error (.cost .allocation)
  else .ok ()

/-! ### Blocks -/

abbrev Block := Array UInt64

def zero : Block := Array.replicate 128 0

def add (x y : Block) : Block :=
  Array.zipWith (fun a b => a ^^^ b) x y

structure Quad where
  a : UInt64
  b : UInt64
  c : UInt64
  d : UInt64

/-- The sum of two words and twice the product of their lower halves. -/
@[inline] def blend (x y : UInt64) : UInt64 :=
  x + y + 2 * (x &&& 0xffffffff) * (y &&& 0xffffffff)

@[inline] def mix (a b c d : UInt64) : Quad :=
  let a := blend a b
  let d := rotateRight (d ^^^ a) 32
  let c := blend c d
  let b := rotateRight (b ^^^ c) 24
  let a := blend a b
  let d := rotateRight (d ^^^ a) 16
  let c := blend c d
  let b := rotateRight (b ^^^ c) 63
  ⟨a, b, c, d⟩

def mixAt (x : Block) (i j k l : Nat) : Block :=
  let q := mix (x.getD i 0) (x.getD j 0) (x.getD k 0) (x.getD l 0)
  (((x.setIfInBounds i q.a).setIfInBounds j q.b).setIfInBounds k q.c).setIfInBounds l q.d

/-- Mixes sixteen words, a four by four matrix, by its columns and its diagonals; `position` has
their places. -/
def permute (position : Nat → Nat) (x : Block) : Block :=
  let x := mixAt x (position 0) (position 4) (position 8) (position 12)
  let x := mixAt x (position 1) (position 5) (position 9) (position 13)
  let x := mixAt x (position 2) (position 6) (position 10) (position 14)
  let x := mixAt x (position 3) (position 7) (position 11) (position 15)
  let x := mixAt x (position 0) (position 5) (position 10) (position 15)
  let x := mixAt x (position 1) (position 6) (position 11) (position 12)
  let x := mixAt x (position 2) (position 7) (position 8) (position 13)
  mixAt x (position 3) (position 4) (position 9) (position 14)

/-- The position of a word in row `i` of the eight rows of sixteen words. -/
@[inline] def rowPosition (i j : Nat) : Nat :=
  16 * i + j

/-- The position of a word in column `i` of the eight columns of eight pairs of words. -/
@[inline] def columnPosition (i j : Nat) : Nat :=
  2 * i + 16 * (j / 2) + j % 2

def compress (x y : Block) : Block :=
  let sum := add x y
  let rows := (List.range 8).foldl (fun z i => permute (rowPosition i) z) sum
  let columns := (List.range 8).foldl (fun z i => permute (columnPosition i) z) rows
  add sum columns

/-! ### Filling the memory -/

/-- How the memory is laid out, where a `segment` is the number of columns in a slice. -/
structure Layout where
  passes : Nat
  lanes : Nat
  segment : Nat

def Layout.columns (layout : Layout) : Nat :=
  4 * layout.segment

def Layout.blocks (layout : Layout) : Nat :=
  layout.lanes * layout.columns

/-- Where filling has got to: a pass, one of its four slices, a lane and a column within the
slice. -/
structure Place where
  pass : Nat
  slice : Nat
  lane : Nat
  index : Nat

/-- The block that pseudo-random words are taken from, when they follow from counters. -/
def addresses (layout : Layout) (place : Place) : Block :=
  let counters : List Nat :=
    [place.pass, place.lane, place.slice, layout.blocks, layout.passes, 2, place.index / 128 + 1]
  let input := (counters.map UInt64.ofNat ++ List.replicate 121 0).toArray
  compress zero (compress zero input)

/-- The lane and the column that a pseudo-random word refers to. -/
def reference (layout : Layout) (place : Place) (word : UInt64) : Nat × Nat :=
  let low := (word &&& 0xffffffff).toNat
  let high := (word >>> 32).toNat
  let first := place.pass = 0
  let lane := if first ∧ place.slice = 0 then place.lane else high % layout.lanes
  let filled := if first then place.slice * layout.segment else layout.columns - layout.segment
  let area :=
    if lane = place.lane then filled + place.index - 1
    else if place.index = 0 then filled - 1 else filled
  let distance := area * (low * low / Nat.pow 2 32) / Nat.pow 2 32
  let start := if first ∨ place.slice = 3 then 0 else (place.slice + 1) * layout.segment
  (lane, (start + (area - 1 - distance)) % layout.columns)

/-- Fills one block; `pseudo` has the pseudo-random words, if they follow from counters. -/
def fillBlock (layout : Layout) (place : Place) (pseudo : Option Block) (memory : Array Block) :
    Array Block :=
  let column := place.slice * layout.segment + place.index
  let here := place.lane * layout.columns + column
  let before := place.lane * layout.columns + (column + layout.columns - 1) % layout.columns
  let previous := memory.getD before zero
  let word := match pseudo with
    | some block => block.getD (place.index % 128) 0
    | none => previous.getD 0 0
  let (lane, other) := reference layout place word
  let fresh := compress previous (memory.getD (lane * layout.columns + other) zero)
  let fresh := if place.pass = 0 then fresh else add fresh (memory.getD here zero)
  memory.setIfInBounds here fresh

/-- Fills the last `count` blocks of a slice of a lane; `pseudo` is the block of pseudo-random words
in use. -/
def fillSlice (layout : Layout) (place : Place) :
    (count : Nat) → Option Block → Array Block → Array Block
  | 0, _, memory => memory
  | count + 1, pseudo, memory =>
    let place := { place with index := layout.segment - (count + 1) }
    let pseudo :=
      if place.pass = 0 ∧ place.slice < 2 then
        if place.index % 128 = 0 ∨ pseudo.isNone then some (addresses layout place) else pseudo
      else none
    fillSlice layout place count pseudo (fillBlock layout place pseudo memory)

/-- Fills a slice of a lane; the first two blocks of a lane are given. -/
def fillLane (layout : Layout) (pass slice : Nat) (memory : Array Block) (lane : Nat) :
    Array Block :=
  let count := if pass = 0 ∧ slice = 0 then layout.segment - 2 else layout.segment
  fillSlice layout ⟨pass, slice, lane, 0⟩ count none memory

/-- Fills the memory once, slice by slice. -/
def fillPass (layout : Layout) (memory : Array Block) (pass : Nat) : Array Block :=
  (List.range 4).foldl
    (fun memory slice => (List.range layout.lanes).foldl (fillLane layout pass slice) memory) memory

/-! ### The derivation -/

/-- The digest of everything that goes into the derivation. -/
def seed (costs : Costs) (password salt : Bytes) : Bytes :=
  let sized := fun (bs : Bytes) => Bytes.ofNatLE 4 bs.length ++ bs
  Blake2b.digest 64 <|
    [costs.lanes.toNat, 32, costs.memory.toNat, costs.passes.toNat, 0x13, 2].flatMap
        (Bytes.ofNatLE 4)
      ++ sized password ++ sized salt ++ sized [] ++ sized []

/-- One of the two blocks that a lane starts from. -/
def startBlock (seed : Bytes) (column lane : Nat) : Block :=
  (Blake2b.words
    (Blake2b.longDigest 1024 (seed ++ Bytes.ofNatLE 4 column ++ Bytes.ofNatLE 4 lane))).toArray

/-- The memory before the first pass. -/
def startMemory (layout : Layout) (seed : Bytes) : Array Block :=
  (List.range layout.lanes).foldl
    (fun memory lane =>
      let at0 := lane * layout.columns
      (memory.setIfInBounds at0 (startBlock seed 0 lane)).setIfInBounds (at0 + 1)
        (startBlock seed 1 lane))
    (Array.replicate layout.blocks zero)

/-- The thirty-two bytes that a password is stretched to. -/
def stretch (costs : Costs) (password salt : Bytes) : Bytes :=
  let layout : Layout :=
    ⟨costs.passes.toNat, costs.lanes.toNat, costs.memory.toNat / (4 * costs.lanes.toNat)⟩
  let memory := (List.range layout.passes).foldl (fillPass layout)
    (startMemory layout (seed costs password salt))
  let last := (List.range layout.lanes).foldl
    (fun sum lane => add sum (memory.getD (lane * layout.columns + layout.columns - 1) zero)) zero
  Blake2b.longDigest 32 (last.toList.flatMap Blake2b.wordBytes)

/-- The thirty-two bytes that a password is stretched to, if the settings are accepted. -/
def derive (costs : Costs) (password salt : Bytes) : Except Error Bytes := do
  costs.check
  return stretch costs password salt

end PasswordVault.Argon2
