import PolicyLint.Decimal.Magnitude

/-!
# Scores

A `Score` counts how often a rule judged labeled files as their labels say. The measures derived
from it are double precision numbers: each operation is exact and then rounded.
-/

namespace PolicyLint

open Decimal (Magnitude binary64)

structure Score where
  rules : Nat := 0
  files : Nat := 0
  truePositives : Nat := 0
  falsePositives : Nat := 0
  trueNegatives : Nat := 0
  falseNegatives : Nat := 0
  failures : Nat := 0
  deriving DecidableEq, Repr, Inhabited

namespace Score

def merge (a b : Score) : Score where
  rules := a.rules + b.rules
  files := a.files + b.files
  truePositives := a.truePositives + b.truePositives
  falsePositives := a.falsePositives + b.falsePositives
  trueNegatives := a.trueNegatives + b.trueNegatives
  falseNegatives := a.falseNegatives + b.falseNegatives
  failures := a.failures + b.failures

def fold (scores : List Score) : Score := scores.foldl merge {}

def classified (s : Score) : Nat :=
  s.truePositives + s.falsePositives + s.trueNegatives + s.falseNegatives

/-- A quotient of counts, each of them rounded first. -/
def ratio (num den : Nat) : Option Magnitude :=
  if den = 0 then none else some (binary64.div (binary64.round num 1) (binary64.round den 1))

/-- How many of the flagged files deserved it. -/
def precision (s : Score) : Option Magnitude :=
  ratio s.truePositives (s.truePositives + s.falsePositives)

/-- How many of the files that deserved it were flagged. -/
def sensitivity (s : Score) : Option Magnitude :=
  ratio s.truePositives (s.truePositives + s.falseNegatives)

def accuracy (s : Score) : Option Magnitude :=
  ratio (s.truePositives + s.trueNegatives) s.classified

/-- The harmonic mean of precision and sensitivity. -/
def f1 (s : Score) : Option Magnitude := do
  let p ← s.precision
  let r ← s.sensitivity
  let sum := binary64.add p r
  if sum.significand = 0 then return sum
  let two := binary64.round 2 1
  return binary64.div (binary64.mul (binary64.mul two p) r) sum

end Score

end PolicyLint
