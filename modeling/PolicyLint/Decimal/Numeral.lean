/-!
# Decimal numerals

The written form of a decimal number: an optional sign, whole digits, and optionally a point with
digits and a signed exponent.
-/

namespace PolicyLint.Decimal

/-- A decimal numeral. A numeral without a point has no fraction digits. -/
structure Numeral where
  negative : Bool := false
  whole : List Char
  fraction : List Char := []
  /-- Whether the exponent is negative, and its digits. -/
  exponent : Option (Bool × List Char) := none
  deriving DecidableEq, Repr, Inhabited

namespace Numeral

def ofNat (n : Nat) : Numeral := { whole := Nat.toDigits 10 n }

def chars (n : Numeral) : List Char :=
  let sign := if n.negative then ['-'] else []
  let fraction := if n.fraction.isEmpty then [] else '.' :: n.fraction
  let exponent :=
    match n.exponent with
    | none => []
    | some (below, digits) => 'e' :: (if below then '-' else '+') :: digits
  sign ++ n.whole ++ fraction ++ exponent

def text (n : Numeral) : String := String.ofList n.chars

def isWhole (n : Numeral) : Bool := n.fraction.isEmpty && n.exponent.isNone

end Numeral

def digitValue (c : Char) : Nat := c.toNat - '0'.toNat

def ofDigits (ds : List Char) : Nat := ds.foldl (fun n c => n * 10 + digitValue c) 0

end PolicyLint.Decimal
