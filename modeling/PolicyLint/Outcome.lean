import PolicyLint.Evaluation.Basic

/-!
# Outcomes

How a run ended, for whoever started it. A run in which something could not be judged is never clean.
-/

namespace PolicyLint

inductive Outcome where
  | clean
  /-- There are findings, or fixtures were misjudged. -/
  | violations
  /-- Something could not be judged. -/
  | unjudged
  deriving DecidableEq, Repr

namespace Outcome

def ofVerdict (v : Verdict) : Outcome :=
  if v.hasFailures then .unjudged else if v.isClean then .clean else .violations

def ofEvaluation (e : Evaluation) : Outcome :=
  if e.hasFailures then .unjudged else if e.hasMisjudged then .violations else .clean

def code : Outcome → Nat
  | clean => 0
  | violations => 1
  | unjudged => 2

end Outcome

end PolicyLint
