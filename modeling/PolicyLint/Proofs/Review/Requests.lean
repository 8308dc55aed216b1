import PolicyLint.Evaluation.Basic
import PolicyLint.Proofs.Review.Basic
import PolicyLint.Proofs.Run.Moments

/-!
# What is asked of a reviewer

A review, a preview, the review of one file and an evaluation are made of the same events: a run or some
lookups, notices around them, and a save in the end.
-/

namespace PolicyLint

namespace Reviewer

variable {σ τ : Type} (r : Reviewer σ τ)

/-! ### Evaluations -/

def groupsOf (plan : EvaluationPlan) (rules : List Rule) (fixturesOf : String → Fixtures) : List (List Task) :=
  (rules.filter fun rule => (Evaluation.skipped rule).isEmpty).map fun rule =>
    ((fixturesOf rule.name).labeled plan.selection).map fun f => { file := f.2, rule, model := r.model }

def groupsRun (plan : EvaluationPlan) (rules : List Rule) (fixturesOf : String → Fixtures) (w : World σ τ) :
    (List (List Verdict) × Nat) × World σ τ :=
  r.engine.runGroups plan.rulesAtOnce plan.filesAtOnce (r.groupsOf plan rules fixturesOf) w

/-- An evaluation is refused and changes nothing, or it runs its groups, puts their verdicts together and
saves. -/
theorem evaluate_cases (plan : EvaluationPlan) (rules : List Rule) (fixturesOf : String → Fixtures) (w : World σ τ) :
    (∃ fault, r.evaluate plan rules fixturesOf w = (.error fault, w)) ∨
      validateRules rules = .ok () ∧ 0 < plan.rulesAtOnce ∧ 0 < plan.filesAtOnce ∧
        ∃ noted notices ev, r.evaluate plan rules fixturesOf w =
            (.ok (ev, (r.groupsRun plan rules fixturesOf { w with notices := noted }).1.2),
              r.save { (r.groupsRun plan rules fixturesOf { w with notices := noted }).2 with notices }) ∧
          ev.verdict =
            (Verdict.fold (r.groupsRun plan rules fixturesOf { w with notices := noted }).1.1.flatten).normalized := by
  rw [evaluate]
  cases valid : validateRules rules with
  | error fault => exact Or.inl ⟨fault, rfl⟩
  | ok _ =>
    dsimp only
    by_cases zero : (plan.rulesAtOnce = 0 || plan.filesAtOnce = 0) = true
    · rw [if_pos zero]
      exact Or.inl ⟨_, rfl⟩
    · have positive := zero
      rw [Bool.or_eq_true, not_or, decide_eq_true_iff, decide_eq_true_iff] at positive
      refine Or.inr ⟨rfl, Nat.pos_of_ne_zero positive.1, Nat.pos_of_ne_zero positive.2,
        w.notices ++ rules.flatMap Evaluation.skipped, ?_⟩
      rw [if_neg zero, List.map_map, ← Verdict.fold_map_fold]
      refine ⟨_, _, rfl, rfl⟩

/-! ### Events -/

section Events

variable {r} {limit : Nat}

theorem save_leads (m : Moment σ τ) : r.engine.Leads limit m { m with world := r.save m.world } := by
  have saved : r.engine.Leads limit m
      { m with world := { m.world with store := (r.engine.store.flush m.world.store).2 } } := .single (.save m)
  rcases flushed : r.engine.store.flush m.world.store with ⟨fault | _, t⟩
  · rw [flushed] at saved
    simp only [save, flushed]
    exact saved.tail (.note _ _)
  · rw [flushed] at saved
    simp only [save, flushed]
    exact saved

theorem evaluate_leads (plan : EvaluationPlan) (rules : List Rule) (fixturesOf : String → Fixtures) (w : World σ τ) :
    ∃ time, r.engine.Leads (plan.rulesAtOnce * plan.filesAtOnce) ⟨0, 0, w⟩
      ⟨time, 0, (r.evaluate plan rules fixturesOf w).2⟩ := by
  rcases r.evaluate_cases plan rules fixturesOf w with ⟨fault, refused⟩ | ⟨_, _, _, noted, notices, ev, ended, _⟩
  · rw [refused]
    exact ⟨0, .refl⟩
  · have before : r.engine.Leads (plan.rulesAtOnce * plan.filesAtOnce) ⟨0, 0, w⟩ ⟨0, 0, { w with notices := noted }⟩ :=
      .single (.note ⟨0, 0, w⟩ noted)
    have course := r.engine.runGroups_leads plan.rulesAtOnce plan.filesAtOnce (r.groupsOf plan rules fixturesOf)
      { w with notices := noted }
    rw [groupsRun] at ended
    generalize r.engine.runGroups plan.rulesAtOnce plan.filesAtOnce (r.groupsOf plan rules fixturesOf)
      { w with notices := noted } = result at course ended
    obtain ⟨⟨verdicts, elapsed⟩, w'⟩ := result
    have after : r.engine.Leads (plan.rulesAtOnce * plan.filesAtOnce) ⟨elapsed, 0, w'⟩
        ⟨elapsed, 0, r.save { w' with notices }⟩ :=
      .trans (.single (.note ⟨elapsed, 0, w'⟩ notices)) (save_leads ⟨elapsed, 0, { w' with notices }⟩)
    rw [ended]
    exact ⟨elapsed, before.trans (course.trans after)⟩

theorem review_leads (files : List SourceFile) (rules : List Rule) (w : World σ τ) :
    ∃ time, r.engine.Leads r.concurrency ⟨0, 0, w⟩ ⟨time, 0, (r.review files rules w).2⟩ := by
  rw [review]
  cases validateInputs files rules with
  | error fault => exact ⟨0, .refl⟩
  | ok _ =>
    dsimp only
    have noted : r.engine.Leads r.concurrency ⟨0, 0, w⟩ ⟨0, 0, w.noteSkipped rules⟩ := .single (.note ⟨0, 0, w⟩ _)
    by_cases zero : r.concurrency = 0
    · rw [Engine.run, if_pos zero]
      exact ⟨0, noted⟩
    · have course := r.engine.runGroups_leads 1 r.concurrency [r.tasks files rules] (w.noteSkipped rules)
      rw [Nat.one_mul] at course
      rw [Engine.run, if_neg zero]
      exact ⟨_, noted.trans (course.trans (save_leads _))⟩

theorem reviewOne_leads (file : SourceFile) (rule : Rule) (w : World σ τ) :
    ∃ time, r.engine.Leads 1 ⟨0, 0, w⟩ ⟨time, 0, (r.reviewOne file rule w).2⟩ :=
  ⟨_, r.engine.runGroups_leads 1 1 [[{ file, rule, model := r.model }]] w⟩

theorem lookupAll_leads (e : Engine σ τ) (tasks : List Task) (m : Moment σ τ) :
    e.Leads limit m { m with world := (e.lookupAll tasks m.world).2 } := by
  induction tasks generalizing m with
  | nil => exact .refl
  | cons task rest ih =>
    have first : e.Leads limit m { m with world := (e.lookup task.key m.world).2 } := .single (.lookup m task.key)
    exact first.trans (ih _)

theorem preview_leads (files : List SourceFile) (rules : List Rule) (w : World σ τ) :
    r.engine.Leads limit ⟨0, 0, w⟩ ⟨0, 0, (r.preview files rules w).2⟩ := by
  rw [preview]
  cases validateInputs files rules with
  | error fault => exact .refl
  | ok _ =>
    have noted : r.engine.Leads limit ⟨0, 0, w⟩ ⟨0, 0, w.noteSkipped rules⟩ := .single (.note ⟨0, 0, w⟩ _)
    exact noted.trans (lookupAll_leads r.engine (r.tasks files rules) ⟨0, 0, w.noteSkipped rules⟩)

end Events

end Reviewer

end PolicyLint
