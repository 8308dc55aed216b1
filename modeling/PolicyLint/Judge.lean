import PolicyLint.Model
import PolicyLint.Prompt.Basic

/-!
# Judges

A `Judge` answers prompts with completions. It carries its own state, so it may answer the same prompt
differently the next time. An answer takes time, and a run may be aborted while it is on its way.
-/

namespace PolicyLint

/-- The text of an answer and what it cost. -/
structure Completion where
  text : String
  promptTokens : UInt64 := 0
  completionTokens : UInt64 := 0
  deriving DecidableEq, Repr

inductive JudgeFault where
  /-- Asking again may help. -/
  | transient (why : String)
  /-- Asking again does not help. -/
  | permanent (why : String)
  deriving DecidableEq, Repr

namespace JudgeFault

def why : JudgeFault → String
  | transient why => why
  | permanent why => why

def message : JudgeFault → String
  | transient why => "Transient backend error: " ++ why
  | permanent why => "Permanent backend error: " ++ why

end JudgeFault

structure Response where
  /-- The milliseconds until it arrives. -/
  delay : Nat := 0
  /-- The run is aborted when it arrives. -/
  aborts : Bool := false
  outcome : Except JudgeFault Completion

/-- A judge with states in `σ`. -/
structure Judge (σ : Type) where
  ask : σ → Prompt → Model → Response × σ

end PolicyLint
