import PolicyLint.Url.Percent

/-!
# Addresses of four numbers

An address is a number of thirty-two bits. It is written as up to four numbers between dots, each of them
decimal, octal after a zero, or hexadecimal after `0x`. The last number stands for all the bytes that are
left.
-/

namespace PolicyLint.Url

structure Ipv4 where
  value : Nat
  deriving DecidableEq, Repr

namespace Ipv4

def digits? (base : Nat) (cs : List Char) : Option Nat :=
  cs.foldlM
    (fun n c => (hexValue? c).bind fun d => if d < base then some (base * n + d) else none) 0

def number? : List Char → Option Nat
  | [] => none
  | '0' :: 'x' :: cs => digits? 16 cs
  | '0' :: 'X' :: cs => digits? 16 cs
  | '0' :: c :: cs => digits? 8 (c :: cs)
  | cs => digits? 10 cs

/-- The last part of a name that is not empty because of a dot at the end. -/
def lastPart (name : List Char) : List Char :=
  match (name.splitOn '.').reverse with
  | [] => []
  | [] :: part :: _ => part
  | part :: _ => part

/-- The name has to be read as an address. -/
def isMeant (name : List Char) : Bool :=
  let part := lastPart name
  (!part.isEmpty && part.all Char.isDigit) || (number? part).isSome

def ofNumbers? (numbers : List Nat) : Option Ipv4 :=
  match numbers.reverse with
  | [] => none
  | last :: front =>
    if 3 < front.length || front.any (255 < ·) || Nat.pow 256 (4 - front.length) ≤ last then none
    else
      let first := front.reverse.foldl (fun n byte => 256 * n + byte) 0
      some ⟨first * Nat.pow 256 (4 - front.length) + last⟩

/-- Reads an address. A dot at its end does not count. -/
def ofText? (name : List Char) : Option Ipv4 :=
  let parts := name.splitOn '.'
  let parts := if parts.getLast? = some [] then parts.dropLast else parts
  (parts.mapM number?).bind ofNumbers?

def text (a : Ipv4) : List Char :=
  List.intercalate ['.'] ([24, 16, 8, 0].map fun shift => Nat.toDigits 10 (a.value >>> shift % 256))

end Ipv4

end PolicyLint.Url
