import PolicyLint.Discovery.Fixtures
import PolicyLint.Review.Basic
import PolicyLint.Score

/-!
# Evaluation

A rule is evaluated on its fixtures: files of which it is known whether they keep or break it. Each
verdict is compared with the label of its file. A fixture that could not be judged is counted on its own.
-/

namespace PolicyLint

inductive Label where
  | correct
  | incorrect
  deriving DecidableEq, Repr

inductive Selection where
  | all
  | correctOnly
  | incorrectOnly
  deriving DecidableEq, Repr, Inhabited

namespace Selection

def ofSwitches : (onlyCorrect onlyIncorrect : Bool) → Except SetupFault Selection
  | true, true => .error .exclusiveLabels
  | true, false => .ok .correctOnly
  | false, true => .ok .incorrectOnly
  | false, false => .ok .all

def includes : Selection → Label → Bool
  | all, _ => true
  | correctOnly, label => label = .correct
  | incorrectOnly, label => label = .incorrect

end Selection

/-- The selected fixtures with their labels, the correct ones first. -/
def Fixtures.labeled (s : Fixtures) (selection : Selection) : List (Label × SourceFile) :=
  (s.correct.map (Label.correct, ·) ++ s.incorrect.map (Label.incorrect, ·)).filter
    fun f => selection.includes f.1

def Score.ofVerdict (label : Label) (v : Verdict) : Score :=
  if v.hasFailures then { files := 1, failures := 1 }
  else
    match label, v.isClean with
    | .correct, true => { files := 1, trueNegatives := 1 }
    | .correct, false => { files := 1, falsePositives := 1 }
    | .incorrect, false => { files := 1, truePositives := 1 }
    | .incorrect, true => { files := 1, falseNegatives := 1 }

/-- How rules did on their fixtures. -/
structure Evaluation where
  /-- The score of each rule, in the order of their names. -/
  rules : List (String × Score) := []
  total : Score := {}
  /-- What was found and what failed. -/
  verdict : Verdict := {}
  deriving Repr

namespace Evaluation

def hasMisjudged (e : Evaluation) : Bool := 0 < e.total.falsePositives + e.total.falseNegatives

def hasFailures (e : Evaluation) : Bool := 0 < e.total.failures

def skipped (rule : Rule) : List Notice :=
  if rule.scope ≠ .file then [.notFileRule rule.name]
  else if !rule.hasDescription then [.noDescription rule.name]
  else []

def noticeOf (rule : Rule) (label : Label) (file : SourceFile) (v : Verdict) : List Notice :=
  if v.hasFailures then [.unjudgedFixture rule.name file.path]
  else
    match label, v.isClean with
    | .correct, false => [.falsePositive rule.name file.path]
    | .incorrect, true => [.falseNegative rule.name file.path]
    | _, _ => []

/-- The score of a rule, given its fixtures and their verdicts. -/
def scoreOf (fixtures : List (Label × SourceFile)) (verdicts : List Verdict) : Score :=
  (Score.fold (List.zipWith (fun f v => Score.ofVerdict f.1 v) fixtures verdicts)).merge
    { rules := 1 }

end Evaluation

structure EvaluationPlan where
  selection : Selection := .all
  /-- How many rules are evaluated at once. -/
  rulesAtOnce : Nat := ({} : Config.Concurrency).rules
  /-- How many fixtures of one rule are checked at once. -/
  filesAtOnce : Nat := ({} : Config.Concurrency).files

namespace Reviewer

variable {σ τ : Type}

/-- Evaluates the file rules that say something on their fixtures: the scores, and the milliseconds that
passed. -/
def evaluate (r : Reviewer σ τ) (plan : EvaluationPlan) (rules : List Rule)
    (fixturesOf : String → Fixtures) (w : World σ τ) :
    Except SetupFault (Evaluation × Nat) × World σ τ :=
  match validateRules rules with
  | .error fault => (.error fault, w)
  | .ok () =>
    if plan.rulesAtOnce = 0 || plan.filesAtOnce = 0 then (.error .noConcurrency, w)
    else
      let w := { w with notices := w.notices ++ rules.flatMap Evaluation.skipped }
      let sets := (rules.filter fun rule => (Evaluation.skipped rule).isEmpty).map fun rule =>
        (rule, (fixturesOf rule.name).labeled plan.selection)
      let groups := sets.map fun (rule, fixtures) =>
        fixtures.map fun f => { file := f.2, rule, model := r.model : Task }
      let ((verdicts, elapsed), w) :=
        r.engine.runGroups plan.rulesAtOnce plan.filesAtOnce groups w
      let judged := sets.zip verdicts
      let notices := judged.flatMap fun ((rule, fixtures), vs) =>
        (fixtures.zip vs).flatMap fun ((label, file), v) =>
          Evaluation.noticeOf rule label file v
      let scores := judged.map fun ((rule, fixtures), vs) =>
        (rule.name, Evaluation.scoreOf fixtures vs)
      let w := r.save { w with notices := w.notices ++ notices }
      (.ok
          ({ rules := scores.mergeSort fun a b => decide (a.1 ≤ b.1)
             total := Score.fold (scores.map (·.2))
             verdict := (Verdict.fold (verdicts.map Verdict.fold)).normalized },
            elapsed),
        w)

end Reviewer

end PolicyLint
