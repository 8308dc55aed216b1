import PolicyLint.Glob.Basic

/-!
# Reading globs

`Glob.ofText` reads a glob in one pass over its characters. Braces open and close groups of branches
that are separated by commas, brackets enclose sets, and a backslash makes the next character stand for
itself. Two stars mean directories only where they fill a whole part of the path.
-/

namespace PolicyLint.Glob

inductive Fault where
  | openSet
  | descendingRange (first last : Char)
  | unopenedGroup
  | openGroup
  | danglingEscape
  deriving DecidableEq, Repr

namespace Fault

def message : Fault → String
  | openSet => "unclosed character class; missing ']'"
  | descendingRange a b =>
    "invalid range; '" ++ String.singleton a ++ "' > '" ++ String.singleton b ++ "'"
  | unopenedGroup =>
    "unopened alternate group; missing '\x7b' (maybe escape '\x7d' with '[\x7d]'?)"
  | openGroup => "unclosed alternate group; missing '\x7d' (maybe escape '\x7b' with '[\x7b]'?)"
  | danglingEscape => "dangling '\\'"

def describe (text : String) (fault : Fault) : String :=
  "error parsing glob '" ++ text ++ "': " ++ fault.message

end Fault

/-- A set that is being read, its ranges reversed. -/
structure OpenSet where
  negated : Bool
  /-- No character of the set has been read yet. -/
  fresh : Bool := true
  /-- A hyphen waits for the end of its range. -/
  hyphen : Bool := false
  ranges : List (Char × Char) := []

namespace OpenSet

def add (s : OpenSet) (c : Char) : Except Fault OpenSet :=
  match s.hyphen, s.ranges with
  | true, (first, _) :: rest =>
    if c < first then .error (.descendingRange first c)
    else .ok { s with fresh := false, hyphen := false, ranges := (first, c) :: rest }
  | _, ranges => .ok { s with fresh := false, hyphen := false, ranges := (c, c) :: ranges }

def piece (s : OpenSet) : Piece :=
  .among s.negated (if s.hyphen then ('-', '-') :: s.ranges else s.ranges).reverse

def read (s : OpenSet) (c : Char) : Except Fault (OpenSet ⊕ Piece) :=
  if c = ']' && !s.fresh then .ok (.inr s.piece)
  else if c = '-' && !s.fresh && !s.hyphen then .ok (.inl { s with hyphen := true })
  else (s.add c).map .inl

end OpenSet

/-- A group that is being read: its finished branches and the pieces in front of it, both reversed. -/
structure OpenGroup where
  done : List (List Piece) := []
  before : List Piece

structure Draft where
  /-- The pieces of the current branch, reversed. -/
  branch : List Piece := []
  /-- The groups around the current branch, the innermost one first. -/
  groups : List OpenGroup := []
  openSet : Option OpenSet := none

namespace Draft

def push (d : Draft) (piece : Piece) : Draft := { d with branch := piece :: d.branch }

def openGroup (d : Draft) : Draft :=
  { d with branch := [], groups := { before := d.branch } :: d.groups }

def comma (d : Draft) : Draft :=
  match d.groups with
  | [] => d.push (.literal ',')
  | group :: groups =>
    { d with branch := [], groups := { group with done := d.branch.reverse :: group.done } :: groups }

def closeGroup (d : Draft) : Except Fault Draft :=
  match d.groups with
  | [] => .error .unopenedGroup
  | group :: groups =>
    let branches := (d.branch.reverse :: group.done).reverse
    .ok { d with branch := .choice branches :: group.before, groups }

def twoStars (d : Draft) : Draft := (d.push .many).push .many

/-- The draft with the last piece, a slash, taken up by a piece for directories. Pieces that reach over
slashes already stay. -/
def directories (d : Draft) (piece : Piece) : Draft :=
  match d.branch with
  | .leading :: _ => d
  | .trailing :: _ => d
  | _ :: rest => { d with branch := piece :: rest }
  | [] => d

def startsPart (d : Draft) (before : Option Char) : Bool :=
  before = some '/' || (!d.groups.isEmpty && (before = some ',' || before = some '\x7b'))

/-- The draft with two stars, given the characters around them, and whether the slash behind them has
been taken up. -/
def doubleStar (d : Draft) (before after : Option Char) : Draft × Bool :=
  if d.branch.isEmpty then
    match after with
    | none => (d.push .leading, false)
    | some '/' => (d.push .leading, true)
    | some _ => (d.twoStars, false)
  else if !d.startsPart before then (d.twoStars, false)
  else
    match after with
    | none => (d.directories .trailing, false)
    | some '/' => (d.directories .between, true)
    | some c =>
      if !d.groups.isEmpty && (c = ',' || c = '\x7d') then (d.directories .trailing, false)
      else (d.twoStars, false)

end Draft

/-- The draft after all characters, the one in front of them being given. -/
def readFrom (before : Option Char) (d : Draft) : List Char → Except Fault Draft
  | [] => if d.openSet.isSome then .error .openSet else .ok d
  | c :: rest =>
    match d.openSet with
    | some set => do
      match ← set.read c with
      | .inl set => readFrom (some c) { d with openSet := some set } rest
      | .inr piece => readFrom (some c) ({ d with openSet := none }.push piece) rest
    | none =>
      match c with
      | '?' => readFrom (some c) (d.push .one) rest
      | '[' =>
        match rest with
        | '!' :: rest => readFrom (some '!') { d with openSet := some { negated := true } } rest
        | '^' :: rest => readFrom (some '^') { d with openSet := some { negated := true } } rest
        | rest => readFrom (some c) { d with openSet := some { negated := false } } rest
      | '\x7b' => readFrom (some c) d.openGroup rest
      | '\x7d' => do readFrom (some c) (← d.closeGroup) rest
      | ',' => readFrom (some c) d.comma rest
      | '\\' =>
        match rest with
        | [] => .error .danglingEscape
        | e :: rest => readFrom (some e) (d.push (.literal e)) rest
      | '*' =>
        match rest with
        | '*' :: rest =>
          let (next, slashToo) := d.doubleStar before rest.head?
          match slashToo, rest with
          | true, s :: rest => readFrom (some s) next rest
          | _, rest => readFrom (some '*') next rest
        | rest => readFrom (some c) (d.push .many) rest
      | c => readFrom (some c) (d.push (.literal c)) rest

def ofText (text : String) : Except Fault Glob := do
  let d ← readFrom none {} text.toList
  if d.groups.isEmpty then return ⟨d.branch.reverse⟩ else throw .openGroup

end PolicyLint.Glob
