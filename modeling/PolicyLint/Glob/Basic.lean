import PolicyLint.Text.Bytes

/-!
# Globs

A glob is a list of pieces that together take up a whole path. Paths are matched as bytes. A piece
takes a set of places in the path, those reached so far, to the set of places behind what it takes up
from there; the path matches when its end is reached from its start. So matching never searches, and
its cost is the product of the lengths of glob and path.
-/

namespace PolicyLint

inductive Glob.Piece where
  /-- The character itself. -/
  | literal (c : Char)
  /-- One byte. -/
  | one
  /-- Any bytes. -/
  | many
  /-- Nothing, one slash, or anything that ends with a slash. -/
  | leading
  /-- A slash and anything after it. -/
  | trailing
  /-- A slash, or anything between two slashes. -/
  | between
  /-- One byte of a set, or one outside of it. -/
  | among (negated : Bool) (ranges : List (Char × Char))
  /-- One of several branches. Branches without a meaning are left out. -/
  | choice (branches : List (List Glob.Piece))
  deriving Inhabited, Repr

structure Glob where
  pieces : List Glob.Piece
  deriving Inhabited, Repr

namespace Glob

/-- For each place in a path, its end included, whether it has been reached. -/
abbrev Places := List Bool

/-- The places one byte on, over bytes with a property. -/
def Places.over (p : UInt8 → Bool) (path : List UInt8) (places : Places) : Places :=
  false :: List.zipWith (fun reached b => reached && p b) places path

def Places.onward (places : Places) : Places :=
  go false places
where
  go (before : Bool) : Places → Places
    | [] => []
    | here :: rest => (before || here) :: go (before || here) rest

def Places.union (a b : Places) : Places := List.zipWith (· || ·) a b

def Places.overAll (path : List UInt8) (places : Places) : List UInt8 → Places
  | [] => places
  | b :: rest => Places.overAll path (places.over (· = b) path) rest

def slash : UInt8 := 0x2F

/-- The ranges of bytes of a range of characters. The bytes in front of the last one of the first
character stand for themselves, as do those behind the first one of the last character. -/
def byteRanges (range : Char × Char) : List (UInt8 × UInt8) :=
  let single (b : UInt8) := (b, b)
  let first := charBytes range.1
  let last := charBytes range.2
  if range.1 = range.2 then first.map single
  else
    (first.dropLast.map single) ++ [(first.getLastD 0, last.headD 0)] ++ (last.tail.map single)

def inRanges (ranges : List (Char × Char)) (b : UInt8) : Bool :=
  (ranges.flatMap byteRanges).any fun r => r.1 ≤ b && b ≤ r.2

mutual

/-- The piece takes up nothing and means nothing. -/
def Piece.isVoid : Piece → Bool
  | .choice branches => areVoid branches
  | .literal _ => false
  | .one => false
  | .many => false
  | .leading => false
  | .trailing => false
  | .between => false
  | .among _ _ => false

def areVoid : List (List Piece) → Bool
  | [] => true
  | branch :: rest => isVoidBranch branch && areVoid rest

def isVoidBranch : List Piece → Bool
  | [] => true
  | piece :: rest => piece.isVoid && isVoidBranch rest

end

mutual

def Piece.advance (path : List UInt8) (places : Places) : Piece → Places
  | .literal c => places.overAll path (charBytes c)
  | .one => places.over (fun _ => true) path
  | .many => places.onward
  | .leading => places.union (places.onward.over (· = slash) path)
  | .trailing => (places.over (· = slash) path).onward
  | .between =>
    let behind := places.over (· = slash) path
    behind.union (behind.onward.over (· = slash) path)
  | .among negated ranges => places.over (fun b => inRanges ranges b != negated) path
  | .choice branches =>
    if areVoid branches then places else advanceBranches path places branches

def advanceBranches (path : List UInt8) (places : Places) : List (List Piece) → Places
  | [] => places.map fun _ => false
  | branch :: rest =>
    let others := advanceBranches path places rest
    if isVoidBranch branch then others else (advanceAll path places branch).union others

def advanceAll (path : List UInt8) (places : Places) : List Piece → Places
  | [] => places
  | piece :: rest => advanceAll path (piece.advance path places) rest

end

def «matches» (g : Glob) (path : String) : Bool :=
  match g.pieces with
  | [.leading] => true
  | pieces =>
    let bytes := utf8 path
    (advanceAll bytes (true :: bytes.map fun _ => false) pieces).getLastD false

end Glob

end PolicyLint
