import PolicyLint.Evaluation.Basic
import PolicyLint.Proofs.Review.Basic
import PolicyLint.Review.Start

/-!
# Visits

A visit starts a reviewer from its own configuration over a directory of stored verdicts, reviews files
or evaluates rules, and leaves the directory to the next one.
-/

namespace PolicyLint

inductive Errand where
  | review (files : List SourceFile) (rules : List Rule)
  | evaluation (plan : EvaluationPlan) (rules : List Rule) (fixturesOf : String → Fixtures)

/-- A reviewer that is set up, does one thing and is gone. -/
structure Visit (σ : Type) where
  config : Config
  judge : Judge σ
  /-- The state in which the judge starts. -/
  state : σ
  errand : Errand
  /-- The time in seconds. -/
  now : Nat
  aborted : Bool := false
  abortAt : Option Interrupt := none

namespace Visit

variable {σ : Type}

def reviewer (v : Visit σ) : Reviewer σ (Manager × CacheDir) := .ofConfig v.config v.judge (.ofManager v.now)

def manager (v : Visit σ) (d : CacheDir) : Manager := ((Manager.ofConfig v.config).start d v.now).1

def world (v : Visit σ) (d : CacheDir) : World σ (Manager × CacheDir) :=
  { World.ofConfig v.config v.state d v.now with aborted := v.aborted, abortAt := v.abortAt }

def finish (v : Visit σ) (d : CacheDir) : World σ (Manager × CacheDir) :=
  match v.errand with
  | .review files rules => (v.reviewer.review files rules (v.world d)).2
  | .evaluation plan rules fixturesOf => (v.reviewer.evaluate plan rules fixturesOf (v.world d)).2

/-- The verdict that a visit reports, unless its input is refused. -/
def report (v : Visit σ) (d : CacheDir) : Option Verdict :=
  match v.errand with
  | .review files rules => (v.reviewer.review files rules (v.world d)).1.toOption.map Prod.fst
  | .evaluation plan rules fixturesOf =>
    (v.reviewer.evaluate plan rules fixturesOf (v.world d)).1.toOption.map fun r => r.1.verdict

def leaves (v : Visit σ) (d : CacheDir) : CacheDir := (v.finish d).store.2

def batch (v : Visit σ) : Option (Nat × Nat × List (List Task)) :=
  match v.errand with
  | .review files rules =>
    match validateInputs files rules with
    | .error _ => none
    | .ok () =>
      if v.reviewer.concurrency = 0 then none
      else some (1, v.reviewer.concurrency, [v.reviewer.tasks files rules])
  | .evaluation plan rules fixturesOf =>
    match validateRules rules with
    | .error _ => none
    | .ok () =>
      if plan.rulesAtOnce = 0 || plan.filesAtOnce = 0 then none
      else
        some (plan.rulesAtOnce, plan.filesAtOnce,
          (rules.filter fun rule => (Evaluation.skipped rule).isEmpty).map fun rule =>
            ((fixturesOf rule.name).labeled plan.selection).map fun f =>
              { file := f.2, rule, model := v.reviewer.model })

def tasks (v : Visit σ) : List Task :=
  match v.batch with
  | none => []
  | some (_, _, groups) => groups.flatten

/-- The world in which the tasks of a visit begin to run. -/
def opening (v : Visit σ) (d : CacheDir) : World σ (Manager × CacheDir) :=
  match v.errand with
  | .review _ rules => (v.world d).noteSkipped rules
  | .evaluation _ rules _ =>
    { v.world d with notices := (v.world d).notices ++ rules.flatMap Evaluation.skipped }

/-- A visit that is not refused ends with a flush that succeeds. -/
def Saved (v : Visit σ) (d : CacheDir) : Prop :=
  ∀ width bound groups, v.batch = some (width, bound, groups) →
    (v.reviewer.engine.store.flush (v.reviewer.engine.runGroups width bound groups (v.opening d)).2.store).1 = .ok ()

/-- The tasks of a visit with the verdicts that they are answered with. -/
def answers (v : Visit σ) (d : CacheDir) : List (Task × Verdict) :=
  match v.batch with
  | none => []
  | some (width, bound, groups) =>
    (groups.zip (v.reviewer.engine.runGroups width bound groups (v.opening d)).1.1).flatMap fun g => g.1.zip g.2

/-! ### What a visit is made of -/

theorem opening_eq (v : Visit σ) (d : CacheDir) :
    (v.opening d).store = (v.manager d, d) ∧ (v.opening d).calls = [] := by
  unfold opening
  split
  · exact ⟨rfl, rfl⟩
  · exact ⟨rfl, rfl⟩

/-- A visit whose input is refused makes no calls and changes nothing. -/
theorem finish_of_refused {v : Visit σ} (refused : v.batch = none) (d : CacheDir) :
    (v.finish d).calls = [] ∧ v.leaves d = d := by
  unfold leaves finish
  unfold batch at refused
  cases errand : v.errand with
  | review files rules =>
    rw [errand] at refused
    dsimp only at refused ⊢
    rw [Reviewer.review]
    cases valid : validateInputs files rules with
    | error fault => exact ⟨rfl, rfl⟩
    | ok _ =>
      rw [valid] at refused
      dsimp only at refused ⊢
      by_cases zero : v.reviewer.concurrency = 0
      · rw [Engine.run, if_pos zero]
        exact ⟨rfl, rfl⟩
      · rw [if_neg zero] at refused
        exact absurd refused (by simp)
  | evaluation plan rules fixturesOf =>
    rw [errand] at refused
    dsimp only at refused ⊢
    rw [Reviewer.evaluate]
    cases valid : validateRules rules with
    | error fault => exact ⟨rfl, rfl⟩
    | ok _ =>
      rw [valid] at refused
      dsimp only at refused ⊢
      by_cases zero : (plan.rulesAtOnce = 0 || plan.filesAtOnce = 0) = true
      · rw [if_pos zero]
        exact ⟨rfl, rfl⟩
      · rw [if_neg zero] at refused
        exact absurd refused (by simp)

/-- Any other visit runs its groups, saves and reports their verdicts. -/
theorem finish_of_accepted {v : Visit σ} {width bound : Nat} {groups : List (List Task)}
    (accepted : v.batch = some (width, bound, groups)) (d : CacheDir) :
    0 < width ∧ 0 < bound ∧
      v.report d =
        some (Verdict.fold (v.reviewer.engine.runGroups width bound groups (v.opening d)).1.1.flatten).normalized ∧
      ∃ notices, v.finish d =
        v.reviewer.save { (v.reviewer.engine.runGroups width bound groups (v.opening d)).2 with notices } := by
  unfold finish report opening
  unfold batch at accepted
  cases errand : v.errand with
  | review files rules =>
    rw [errand] at accepted
    dsimp only at accepted ⊢
    rw [Reviewer.review]
    cases valid : validateInputs files rules with
    | error fault =>
      rw [valid] at accepted
      exact absurd accepted (by simp)
    | ok _ =>
      rw [valid] at accepted
      dsimp only at accepted ⊢
      by_cases zero : v.reviewer.concurrency = 0
      · rw [if_pos zero] at accepted
        exact absurd accepted (by simp)
      · rw [if_neg zero] at accepted
        simp only [Option.some.injEq, Prod.mk.injEq] at accepted
        obtain ⟨rfl, rfl, rfl⟩ := accepted
        rw [Engine.run, if_neg zero]
        refine ⟨Nat.one_pos, Nat.pos_of_ne_zero zero, rfl, ?_⟩
        apply Exists.intro
        rfl
  | evaluation plan rules fixturesOf =>
    rw [errand] at accepted
    dsimp only at accepted ⊢
    rw [Reviewer.evaluate]
    cases valid : validateRules rules with
    | error fault =>
      rw [valid] at accepted
      exact absurd accepted (by simp)
    | ok _ =>
      rw [valid] at accepted
      dsimp only at accepted ⊢
      by_cases zero : (plan.rulesAtOnce = 0 || plan.filesAtOnce = 0) = true
      · rw [if_pos zero] at accepted
        exact absurd accepted (by simp)
      · rw [if_neg zero] at accepted
        simp only [Option.some.injEq, Prod.mk.injEq] at accepted
        obtain ⟨rfl, rfl, rfl⟩ := accepted
        rw [Bool.or_eq_true, not_or, decide_eq_true_iff, decide_eq_true_iff] at zero
        refine ⟨Nat.pos_of_ne_zero zero.1, Nat.pos_of_ne_zero zero.2, ?_⟩
        rw [if_neg (by simp [zero.1, zero.2]), List.map_map, ← Verdict.fold_map_fold]
        refine ⟨rfl, ?_⟩
        apply Exists.intro
        rfl

end Visit

end PolicyLint
