import PolicyLint.Duration

/-!
# Retries

A failure that may pass is followed by another attempt after a wait. The waits double up to a
longest one.
-/

namespace PolicyLint

/-- How often a check is attempted and how long it waits, in milliseconds. -/
structure Retry where
  maxAttempts : Nat := 3
  baseDelay : Nat := 500
  maxDelay : Nat := 8000
  /-- How long one attempt may take. -/
  timeout : Nat := 60000
  deriving DecidableEq, Repr

namespace Retry

/-- No attempt after the first one. -/
def never : Retry := { maxAttempts := 1 }

/-- The count of attempts, at least one. -/
def attempts (r : Retry) : Nat := max r.maxAttempts 1

/-- After how many doublings the wait stays the same. -/
def lastDoubling : Nat := 31

/-- The wait after a failed attempt, counted from one. -/
def delayAfter (r : Retry) (attempt : Nat) : Nat :=
  min (r.baseDelay * Nat.pow 2 (min (attempt - 1) lastDoubling)) r.maxDelay

end Retry

end PolicyLint
