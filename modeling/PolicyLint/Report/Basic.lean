import PolicyLint.Outcome
import PolicyLint.Report.Json
import PolicyLint.Report.Text

/-!
# Reports

What a finished run has to show, in one of two formats. `outcome` is what it amounts to.
-/

namespace PolicyLint

inductive Report where
  /-- The verdict on some files. -/
  | review (verdict : Verdict) (files : Nat)
  /-- What a review of some files would do. -/
  | preview (plan : DryRun) (files : Nat)
  | evaluation (evaluation : Evaluation)
  deriving Repr

inductive Report.Format where
  | text
  | json
  deriving DecidableEq, Repr

namespace Report

def Format.named : List (String × Format) := [("text", .text), ("json", .json)]

def toText : Report → String
  | review v files => verdictText v files
  | preview d files => dryRunText d files
  | evaluation e => evaluationText e

def toJson : Report → Json
  | review v files => verdictJson v files
  | preview d files => dryRunJson d files
  | evaluation e => evaluationJson e

def written (r : Report) : Format → String
  | .text => r.toText
  | .json => line (write r.toJson)

/-- The verdict whose costs are told. -/
def verdict : Report → Verdict
  | review v _ => v
  | preview d _ => d.cached
  | evaluation e => e.verdict

/-- What the run amounts to. A preview is always clean. -/
def outcome : Report → Outcome
  | review v _ => .ofVerdict v
  | preview _ _ => .clean
  | evaluation e => .ofEvaluation e

end Report

end PolicyLint
