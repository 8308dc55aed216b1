import PolicyLint.Decimal.Magnitude
import PolicyLint.Decimal.Numeral

/-!
# The shortest decimal of a binary number

Among the decimals that round to a given number of a format, `Format.shortest` takes one with the
fewest digits and of those the nearest. `Layout` decides how its digits are written.
-/

namespace PolicyLint.Decimal

/-- A decimal `0.d₁d₂… * 10 ^ point`, the digits without trailing zeros. -/
structure Digits where
  digits : List Char
  point : Int
  deriving DecidableEq, Repr

/-- The least `k` with `den ≤ num * 10 ^ k`, for a positive `num`. -/
def placesBelowOne (num den : Nat) : Nat :=
  if num = 0 ∨ den ≤ num then 0 else placesBelowOne (num * 10) den + 1
termination_by den - num
decreasing_by omega

/-- The decimal exponent of the first digit of `num / den`, for a positive quotient. -/
def leadingPlace (num den : Nat) : Int :=
  if den ≤ num then ((Nat.toDigits 10 (num / den)).length : Int) - 1
  else -(placesBelowOne num den : Int)

/-- The decimals that round to a number: those between two quotients over one denominator, the ends
included for an even significand. -/
structure Interval where
  low : Nat
  value : Nat
  high : Nat
  den : Nat
  closed : Bool

namespace Interval

def contains (i : Interval) (num d : Nat) : Bool :=
  let n := num * i.den
  if i.closed then i.low * d ≤ n && n ≤ i.high * d else i.low * d < n && n < i.high * d

/-- The decimals that round to `x`: half a unit on both sides, a quarter below a power of two. -/
def ofMagnitude (f : Format) (x : Magnitude) : Interval :=
  let e := x.exponent - 2
  let scale := Nat.pow 2 e.toNat
  let below :=
    if x.significand = Nat.pow 2 (f.precision - 1) ∧ f.minExponent < x.exponent then 1 else 2
  { low := (4 * x.significand - below) * scale
    value := 4 * x.significand * scale
    high := (4 * x.significand + 2) * scale
    den := Nat.pow 2 (-e).toNat
    closed := x.significand % 2 = 0 }

/-- The multiple of `10 ^ place` in the interval nearest to its value, if there is one: it is one of
the two neighbours of the value. -/
def onGrid? (i : Interval) (place : Int) : Option Nat :=
  let up := Nat.pow 10 place.toNat
  let down := Nat.pow 10 (-place).toNat
  let lower := i.value * down / (i.den * up)
  let upper := lower + 1
  let hit (k : Nat) : Bool := i.contains (k * up) down
  let toLower := i.value * down - lower * (i.den * up)
  let toUpper := upper * (i.den * up) - i.value * down
  if hit lower && hit upper then
    some (if toLower < toUpper ∨ (toLower = toUpper ∧ lower % 2 = 0) then lower else upper)
  else if hit lower then some lower
  else if hit upper then some upper
  else none

end Interval

def Digits.ofNat (n : Nat) (place : Int) : Digits :=
  let ds := Nat.toDigits 10 n
  ⟨(ds.reverse.dropWhile (· == '0')).reverse, (ds.length : Int) + place⟩

/-- The first grid, from coarse to fine, with a multiple in the interval. -/
def shortestFrom (i : Interval) (place : Int) : Nat → Digits
  | 0 => Digits.ofNat i.value 0
  | tries + 1 =>
    match i.onGrid? place with
    | some n => Digits.ofNat n place
    | none => shortestFrom i (place - 1) tries

/-- The shortest decimal that rounds to a positive number of the format; seventeen digits always
suffice for double precision. -/
def Format.shortest (f : Format) (x : Magnitude) : Digits :=
  let i := Interval.ofMagnitude f x
  shortestFrom i (leadingPlace i.value i.den) 18

/-- The first digits of numbers written without an exponent stand between these two places. -/
structure Layout where
  leastPlain : Int
  greatestPlain : Int

def Layout.single : Layout := ⟨-6, 12⟩

def Layout.double : Layout := ⟨-5, 15⟩

def Digits.plain (d : Digits) : Numeral :=
  if d.point ≤ 0 then
    { whole := ['0'], fraction := List.replicate (-d.point).toNat '0' ++ d.digits }
  else
    let whole := d.point.toNat
    if d.digits.length ≤ whole then
      { whole := d.digits ++ List.replicate (whole - d.digits.length) '0', fraction := ['0'] }
    else { whole := d.digits.take whole, fraction := d.digits.drop whole }

/-- One digit before the point, the others after it, and a signed exponent. -/
def Digits.scientific (d : Digits) : Numeral :=
  let e := d.point - 1
  { whole := d.digits.take 1
    fraction := d.digits.drop 1
    exponent := some (decide (e < 0), Nat.toDigits 10 e.natAbs) }

def Layout.numeral (l : Layout) (f : Format) (x : Magnitude) : Numeral :=
  if x.significand = 0 then { whole := ['0'], fraction := ['0'] }
  else
    let d := f.shortest x
    if l.leastPlain ≤ d.point - 1 ∧ d.point - 1 ≤ l.greatestPlain then d.plain else d.scientific

def Layout.numeral? (l : Layout) (f : Format) : Binary → Option Numeral
  | .finite negative x => some { l.numeral f x with negative := negative }
  | .infinite _ => none

/-- A number with a fixed count of places, a tie going to the even digit. -/
def fixed (places : Nat) (x : Magnitude) : String :=
  let n := roundHalfEven (x.num * Nat.pow 10 places) x.den
  let ds := Nat.toDigits 10 n
  let padded := List.replicate (places + 1 - ds.length) '0' ++ ds
  let whole := padded.length - places
  if places = 0 then String.ofList padded
  else String.ofList (padded.take whole ++ '.' :: padded.drop whole)

end PolicyLint.Decimal
