import PolicyLint.Url.Ipv4

/-!
# Addresses of eight numbers

An address is eight hexadecimal numbers between colons. Two colons in a row stand for zeros, and the last
two numbers can be written as four decimal ones. `Ipv6.text` uses two colons for the longest run of
zeros.
-/

namespace PolicyLint.Url

/-- An address of eight numbers. -/
structure Ipv6 where
  pieces : List Nat
  deriving DecidableEq, Repr

namespace Ipv6

/-- A decimal number of an address within an address. It has no zeros in front. -/
def byte? (cs : List Char) : Option Nat :=
  if cs.isEmpty || (cs.head? = some '0' && 1 < cs.length) then none
  else (Ipv4.digits? 10 cs).filter (· ≤ 255)

/-- The pieces that four decimal numbers stand for, reversed. -/
def embedded? (cs : List Char) : Option (List Nat) := do
  match ← (cs.splitOn '.').mapM byte? with
  | [a, b, c, d] => some [256 * c + d, 256 * a + b]
  | _ => none

def piece? (cs : List Char) : Option Nat :=
  if cs.isEmpty || 4 < cs.length then none else Ipv4.digits? 16 cs

/-- The pieces that parts between colons stand for, reversed, and the place behind the zeros that are
left out. What has been read so far comes first. -/
def readParts (done : List Nat) (gap : Option Nat) :
    List (List Char) → Option (List Nat × Option Nat)
  | [] => some (done, gap)
  | [[]] => some (done, gap)
  | [part] =>
    if part.contains '.' then
      if 6 < done.length then none else (embedded? part).map fun pieces => (pieces ++ done, gap)
    else if 8 ≤ done.length then none
    else (piece? part).map fun piece => (piece :: done, gap)
  | part :: rest =>
    if 8 ≤ done.length then none
    else if part.isEmpty then
      if gap.isSome then none else readParts (0 :: done) (some (done.length + 1)) rest
    else if rest = [[]] then none
    else (piece? part).bind fun piece => readParts (piece :: done) gap rest

def ofText? (cs : List Char) : Option Ipv6 := do
  let (back, gap) ←
    match cs with
    | [] => none
    | [_] => none
    | ':' :: ':' :: rest => readParts [0] (some 1) (rest.splitOn ':')
    | ':' :: _ => none
    | cs => readParts [] none (cs.splitOn ':')
  match gap with
  | some place =>
    let pieces := back.reverse
    some ⟨pieces.take place ++ List.replicate (8 - pieces.length) 0 ++ pieces.drop place⟩
  | none => if back.length = 8 then some ⟨back.reverse⟩ else none

def zeros (pieces : List Nat) : Nat := (pieces.takeWhile (· = 0)).length

/-- The place and the length of the first of the longest runs of zeros. -/
def longestRun (pieces : List Nat) : Nat × Nat :=
  (List.range pieces.length).foldl
    (fun best place =>
      let length := zeros (pieces.drop place)
      if best.2 < length then (place, length) else best)
    (0, 0)

def joined (pieces : List Nat) : List Char :=
  List.intercalate [':'] (pieces.map fun piece => Nat.toDigits 16 piece)

def text (a : Ipv6) : List Char :=
  let (place, length) := longestRun a.pieces
  if length < 2 then joined a.pieces
  else joined (a.pieces.take place) ++ [':', ':'] ++ joined (a.pieces.drop (place + length))

end Ipv6

end PolicyLint.Url
