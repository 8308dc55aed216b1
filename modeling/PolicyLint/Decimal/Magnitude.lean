/-!
# Magnitudes and their rounding

The magnitude of a binary floating point number is a natural significand times a power of two.
`Format.round` takes an exact quotient of naturals to the nearest magnitude of a format, a tie going
to the even significand, so arithmetic on floating point numbers is arithmetic on quotients followed
by one rounding.
-/

namespace PolicyLint.Decimal

/-- The nearest natural to `num / den`, a tie going to the even one. -/
def roundHalfEven (num den : Nat) : Nat :=
  let q := num / den
  let r := num % den
  if 2 * r < den then q
  else if den < 2 * r then q + 1
  else if q % 2 = 0 then q
  else q + 1

/-- The number `significand * 2 ^ exponent`. -/
structure Magnitude where
  significand : Nat
  exponent : Int
  deriving DecidableEq, Repr

namespace Magnitude

def num (x : Magnitude) : Nat := x.significand * Nat.pow 2 x.exponent.toNat

def den (x : Magnitude) : Nat := Nat.pow 2 (-x.exponent).toNat

end Magnitude

/-- A binary format: the bits of a significand, the exponent of the least number and the greatest
exponent. -/
structure Format where
  precision : Nat
  minExponent : Int
  maxExponent : Int
  deriving DecidableEq, Repr

def binary32 : Format := ⟨24, -149, 104⟩

def binary64 : Format := ⟨53, -1074, 971⟩

/-- The numerator and denominator of `num / den` in units of `2 ^ exponent`. -/
def inUnits (num den : Nat) (exponent : Int) : Nat × Nat :=
  (num * Nat.pow 2 (-exponent).toNat, den * Nat.pow 2 exponent.toNat)

namespace Format

/-- The exponent at which `num / den` fills the significand of the format, or the least one. -/
def exponentFor (f : Format) (num den : Nat) : Int :=
  let e : Int := (num.log2 : Int) - (den.log2 : Int) - (f.precision : Int) + 1
  let (n, d) := inUnits num den e
  max (if n < Nat.pow 2 (f.precision - 1) * d then e - 1 else e) f.minExponent

/-- The number of the format nearest to `num / den`, its exponent not bounded above. -/
def round (f : Format) (num den : Nat) : Magnitude :=
  if num = 0 then ⟨0, f.minExponent⟩
  else
    let e := f.exponentFor num den
    let (n, d) := inUnits num den e
    let m := roundHalfEven n d
    if m = Nat.pow 2 f.precision then ⟨Nat.pow 2 (f.precision - 1), e + 1⟩ else ⟨m, e⟩

def add (f : Format) (x y : Magnitude) : Magnitude :=
  f.round (x.num * y.den + y.num * x.den) (x.den * y.den)

def mul (f : Format) (x y : Magnitude) : Magnitude :=
  f.round (x.num * y.num) (x.den * y.den)

def div (f : Format) (x y : Magnitude) : Magnitude :=
  f.round (x.num * y.den) (x.den * y.num)

end Format

/-- A signed number of a format, or an infinity where rounding left the format's range. -/
inductive Binary
  | finite (negative : Bool) (magnitude : Magnitude)
  | infinite (negative : Bool)
  deriving DecidableEq, Repr

namespace Binary

def ofMagnitude (f : Format) (negative : Bool) (x : Magnitude) : Binary :=
  if f.maxExponent < x.exponent then .infinite negative else .finite negative x

def ofNat (f : Format) (negative : Bool) (n : Nat) : Binary :=
  ofMagnitude f negative (f.round n 1)

def convert (f : Format) : Binary → Binary
  | finite negative x => ofMagnitude f negative (f.round x.num x.den)
  | infinite negative => .infinite negative

def zero (f : Format) : Binary := .finite false ⟨0, f.minExponent⟩

end Binary

end PolicyLint.Decimal
