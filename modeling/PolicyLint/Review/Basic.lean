import PolicyLint.Config.Basic
import PolicyLint.Rule.Validation
import PolicyLint.Run.Batch
import PolicyLint.Run.DryRun

/-!
# Reviews

A `Reviewer` checks files against rules: every file rule on every file, every project rule once on the
project. The verdicts of all tasks are put together and brought into the order of their files and rules.
Input that is refused changes nothing.
-/

namespace PolicyLint

structure Reviewer (σ τ : Type) where
  engine : Engine σ τ
  model : Model := {}
  /-- How many checks may go on at once. -/
  concurrency : Nat := ({} : Config.Concurrency).files

namespace World

variable {σ τ : Type}

def noteSkipped (w : World σ τ) (rules : List Rule) : World σ τ :=
  { w with
    notices := w.notices ++
      (rules.filter fun r => !r.hasDescription).map fun r => .noDescription r.name }

end World

namespace Reviewer

variable {σ τ : Type}

def ofConfig (config : Config) (judge : Judge σ) (store : Store τ) : Reviewer σ τ where
  engine := { judge, store, retry := config.retry.policy }
  model := config.model
  concurrency := config.concurrency.files

def activeRules (rules : List Rule) : List Rule := rules.filter Rule.hasDescription

def tasks (r : Reviewer σ τ) (files : List SourceFile) (rules : List Rule) : List Task :=
  Task.ofRules r.model files (activeRules rules)

/-- Saves what was stored. A failure is only noted. -/
def save (r : Reviewer σ τ) (w : World σ τ) : World σ τ :=
  let (saved, store) := r.engine.store.flush w.store
  let w := { w with store }
  match saved with
  | .ok () => w
  | .error fault => w.note (.savingFailed fault)

/-- Checks files against rules: the verdict, and the milliseconds that passed. -/
def review (r : Reviewer σ τ) (files : List SourceFile) (rules : List Rule) (w : World σ τ) :
    Except SetupFault (Verdict × Nat) × World σ τ :=
  match validateInputs files rules with
  | .error fault => (.error fault, w)
  | .ok () =>
    let w := w.noteSkipped rules
    match r.engine.run (r.tasks files rules) r.concurrency w with
    | .error fault => (.error fault, w)
    | .ok ((verdicts, elapsed), w) => (.ok ((Verdict.fold verdicts).normalized, elapsed), r.save w)

def preview (r : Reviewer σ τ) (files : List SourceFile) (rules : List Rule) (w : World σ τ) :
    Except SetupFault DryRun × World σ τ :=
  match validateInputs files rules with
  | .error fault => (.error fault, w)
  | .ok () =>
    let (plan, w) := r.engine.dryRun (r.tasks files rules) (w.noteSkipped rules)
    (.ok { plan with cached := plan.cached.normalized }, w)

/-- Checks one file against one rule, whatever they are: the verdict, and the milliseconds that passed.
Nothing is saved. -/
def reviewOne (r : Reviewer σ τ) (file : SourceFile) (rule : Rule) (w : World σ τ) :
    (Verdict × Nat) × World σ τ :=
  let ((verdicts, elapsed), w) := r.engine.runGroups 1 1 [[{ file, rule, model := r.model }]] w
  ((verdicts.flatten.headD {}, elapsed), w)

end Reviewer

end PolicyLint
