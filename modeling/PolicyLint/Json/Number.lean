import PolicyLint.Decimal.Shortest

/-!
# The value of a numeral

Numerals without point and exponent denote integers where 64 bits hold them. All others denote
double precision numbers: as many digits as fit 64 bits make a significand, which is rounded and
then scaled by a rounded power of ten. The scaled number may differ from the nearest one in its last
bit, and it is the one that counts.
-/

namespace PolicyLint.Json

open Decimal (Numeral Binary Magnitude Format binary64 digitValue)

inductive Number where
  | natural (n : Nat)
  /-- The number `-n`. -/
  | negative (n : Nat)
  | real (x : Binary)
  deriving DecidableEq, Repr

def greatestWord : Nat := 0xFFFFFFFFFFFFFFFF

/-- Appends digits to a significand while 64 bits hold it; the digits that are left. -/
def takeDigits : Nat → List Char → Nat × List Char
  | n, [] => (n, [])
  | n, c :: rest =>
    let next := n * 10 + digitValue c
    if next ≤ greatestWord then takeDigits next rest else (n, c :: rest)

/-- The greatest power of ten that scales in one step. -/
def greatestScale : Nat := 308

def powerOfTen (k : Nat) : Magnitude := binary64.round (Nat.pow 10 k) 1

/-- The magnitude `x * 10 ^ exponent`, rounded at each step, if it stays in range. -/
def scale? (x : Magnitude) (exponent : Int) : Option Magnitude :=
  if exponent.natAbs ≤ greatestScale then
    if 0 ≤ exponent then
      let y := binary64.mul x (powerOfTen exponent.natAbs)
      if binary64.maxExponent < y.exponent then none else some y
    else some (binary64.div x (powerOfTen exponent.natAbs))
  else if x.significand = 0 then some x
  else if 0 ≤ exponent then none
  else scale? (binary64.div x (powerOfTen greatestScale)) (exponent + greatestScale)
termination_by exponent.natAbs
decreasing_by simp only [greatestScale] at *; omega

def realOfParts? (negative : Bool) (significand : Nat) (exponent : Int) : Option Number :=
  (scale? (binary64.round significand 1) exponent).map fun x => .real (.finite negative x)

def exponentValue : Option (Bool × List Char) → Int
  | none => 0
  | some (below, digits) =>
    let n : Int := Decimal.ofDigits digits
    if below then -n else n

def number? (n : Numeral) : Option Number :=
  let (significand, excess) := takeDigits 0 n.whole
  if n.isWhole && excess.isEmpty then
    if !n.negative then some (.natural significand)
    else if 1 ≤ significand ∧ significand ≤ 0x8000000000000000 then some (.negative significand)
    else realOfParts? true significand 0
  else
    let (significand, ignored) := takeDigits significand n.fraction
    let places : Int := (n.fraction.length - ignored.length : Nat)
    realOfParts? n.negative significand (excess.length - places + exponentValue n.exponent)

def Number.toBinary (f : Format) : Number → Binary
  | natural n => .ofNat f false n
  | negative n => .ofNat f true n
  | real x => x.convert f

end PolicyLint.Json
