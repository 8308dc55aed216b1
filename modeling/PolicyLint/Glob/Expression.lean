import PolicyLint.Glob.Basic

/-!
# Expressions of globs

A glob stands for a regular expression over bytes. `expression` writes it, and `nesting` says how deep
it is nested. Globs whose expression is nested too deep cannot be compiled.
-/

namespace PolicyLint.Glob

def metaCharacters : List Char :=
  ['\\', '.', '+', '*', '?', '(', ')', '|', '[', ']', '\x7b', '\x7d', '^', '$', '#', '&', '-', '~']

def byteExpression (b : UInt8) : List Char :=
  if b < 0x80 then
    let c := Char.ofNat b.toNat
    if c ∈ metaCharacters then ['\\', c] else [c]
  else ['\\', 'x', Nat.digitChar (b.toNat / 16), Nat.digitChar (b.toNat % 16)]

def charExpression (c : Char) : List Char := (charBytes c).flatMap byteExpression

def rangeExpression (range : Char × Char) : List Char :=
  charExpression range.1 ++
    (if range.1 = range.2 then [] else '-' :: charExpression range.2)

mutual

def Piece.expression : Piece → List Char
  | .literal c => charExpression c
  | .one => ['.']
  | .many => ['.', '*']
  | .leading => "(?:/?|.*/)".toList
  | .trailing => "/.*".toList
  | .between => "(?:/|/.*/)".toList
  | .among negated ranges =>
    '[' :: (if negated then ['^'] else []) ++ ranges.flatMap rangeExpression ++ [']']
  | .choice branches =>
    if areVoid branches then []
    else "(?:".toList ++ List.intercalate ['|'] (branchExpressions branches) ++ [')']

def branchExpressions : List (List Piece) → List (List Char)
  | [] => []
  | branch :: rest =>
    if isVoidBranch branch then branchExpressions rest
    else piecesExpression branch :: branchExpressions rest

def piecesExpression : List Piece → List Char
  | [] => []
  | piece :: rest => piece.expression ++ piecesExpression rest

end

def expression (g : Glob) : String :=
  let inner := match g.pieces with
    | [.leading] => ".*".toList
    | pieces => piecesExpression pieces
  String.ofList ("(?-u)^".toList ++ inner ++ ['$'])

def nestingInRow : List Nat → Nat
  | [] => 0
  | [nesting] => nesting
  | nestings => nestings.foldl max 0 + 1

mutual

def Piece.nestings : Piece → List Nat
  | .literal c => (charBytes c).map fun _ => 0
  | .one => [0]
  | .many => [1]
  | .leading => [4]
  | .trailing => [0, 1]
  | .between => [4]
  | .among _ ranges => [if (ranges.flatMap byteRanges).length ≤ 1 then 1 else 2]
  | .choice branches => if areVoid branches then [] else [nestingInRow (branchNestings branches) + 1]

def branchNestings : List (List Piece) → List Nat
  | [] => []
  | branch :: rest =>
    if isVoidBranch branch then branchNestings rest
    else nestingInRow (pieceNestings branch) :: branchNestings rest

def pieceNestings : List Piece → List Nat
  | [] => []
  | piece :: rest => piece.nestings ++ pieceNestings rest

end

def nesting (g : Glob) : Nat := (pieceNestings g.pieces).foldl max 0 + 1

/-- The deepest nesting of an expression that can be compiled. -/
def deepestNesting : Nat := 250

def compiles (g : Glob) : Bool := g.nesting ≤ deepestNesting

end PolicyLint.Glob
