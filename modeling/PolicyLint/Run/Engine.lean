import PolicyLint.Cache.Store
import PolicyLint.Judge
import PolicyLint.Notice
import PolicyLint.Retry
import PolicyLint.Run.Task

/-!
# Engines

An `Engine` answers tasks from a store where it can and from a judge where it has to. Its `World` is what
changes while it runs: the states of judge and store, whether the run is aborted, the calls that were
made, the verdicts that were handed to the store and the notices that were given. Times are milliseconds
since the run began.
-/

namespace PolicyLint

structure Engine (σ τ : Type) where
  judge : Judge σ
  store : Store τ
  retry : Retry

/-- A call of the judge, from its start to its end, and what it brought. -/
structure Call where
  start : Nat
  stop : Nat
  key : Key
  prompt : Prompt
  model : Model
  /-- The run is aborted when the call ends. -/
  aborts : Bool
  outcome : Except JudgeFault Completion

/-- When a run is aborted from outside. -/
inductive Interrupt where
  | atTime (time : Nat)
  /-- As soon as so many calls have started, so also between two starts at one time. -/
  | afterCalls (count : Nat)
  deriving DecidableEq, Repr

def Interrupt.isDue (time calls : Nat) : Interrupt → Bool
  | .atTime t => t ≤ time
  | .afterCalls count => count ≤ calls

/-- What changes in a run. -/
structure World (σ τ : Type) where
  judge : σ
  store : τ
  aborted : Bool := false
  abortAt : Option Interrupt := none
  calls : List Call := []
  /-- The verdicts that were handed to the store, under their keys. -/
  filed : List (Key × Verdict) := []
  notices : List Notice := []

namespace World

variable {σ τ : Type}

/-- No call may start any more at a time when so many have started. -/
def isOver (w : World σ τ) (time calls : Nat) : Bool :=
  w.aborted || w.abortAt.any (·.isDue time calls)

def isAborted (w : World σ τ) (time : Nat) : Bool := w.isOver time w.calls.length

def note (w : World σ τ) (notice : Notice) : World σ τ :=
  { w with notices := w.notices ++ [notice] }

end World

namespace Engine

variable {σ τ : Type}

/-- The stored verdict of a key. A failing store and an entry of another key count as a miss. -/
def lookup (e : Engine σ τ) (key : Key) (w : World σ τ) : Option Verdict × World σ τ :=
  let (found, store) := e.store.get w.store key
  let w := { w with store }
  match found with
  | .ok (some entry) => (if entry.key = key then some entry.verdict else none, w)
  | .ok none => (none, w)
  | .error fault => (none, w.note (.lookupFailed fault))

end Engine

end PolicyLint
