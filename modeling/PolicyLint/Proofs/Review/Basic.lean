import PolicyLint.Outcome
import PolicyLint.Proofs.Run.Verdicts
import PolicyLint.Review.Basic

/-!
# What a review is made of

A review that is not refused is a run of its tasks. Its verdict is that of the tasks put together, and
what follows the run only saves.
-/

namespace PolicyLint

namespace Reviewer

variable {σ τ : Type} {r : Reviewer σ τ} {files : List SourceFile} {rules : List Rule} {w w' : World σ τ}

theorem save_eq (r : Reviewer σ τ) (w : World σ τ) :
    (r.save w).calls = w.calls ∧ (r.save w).filed = w.filed ∧
      (r.save w).store = (r.engine.store.flush w.store).2 := by
  rcases flushed : r.engine.store.flush w.store with ⟨_ | _, t⟩
  · simp only [save, flushed]
    exact ⟨rfl, rfl, rfl⟩
  · simp only [save, flushed]
    exact ⟨trivial, trivial, trivial⟩

theorem isAborted_save (r : Reviewer σ τ) (w : World σ τ) (t : Nat) : (r.save w).isAborted t = w.isAborted t := by
  rcases flushed : r.engine.store.flush w.store with ⟨_ | _, store⟩
  · simp only [save, flushed]
    rfl
  · simp only [save, flushed]
    rfl

theorem review_eq_ok {v : Verdict} {elapsed : Nat} (reviewed : r.review files rules w = (.ok (v, elapsed), w')) :
    ∃ verdicts w'', r.engine.run (r.tasks files rules) r.concurrency (w.noteSkipped rules) =
        .ok ((verdicts, elapsed), w'') ∧
      v = (Verdict.fold verdicts).normalized ∧ w' = r.save w'' := by
  unfold review at reviewed
  split at reviewed
  · exact absurd (congrArg Prod.fst reviewed) (by simp)
  · dsimp only at reviewed
    split at reviewed
    · exact absurd (congrArg Prod.fst reviewed) (by simp)
    · rename_i verdicts elapsed' w'' ended
      obtain ⟨rfl, rfl⟩ := Prod.mk.inj (Except.ok.inj (congrArg Prod.fst reviewed))
      exact ⟨verdicts, w'', ended, rfl, (congrArg Prod.snd reviewed).symm⟩

theorem review_of_valid (valid : validateInputs files rules = .ok ()) {verdicts : List Verdict} {elapsed : Nat}
    {w'' : World σ τ}
    (ended : r.engine.run (r.tasks files rules) r.concurrency (w.noteSkipped rules) =
      .ok ((verdicts, elapsed), w'')) :
    r.review files rules w = (.ok ((Verdict.fold verdicts).normalized, elapsed), r.save w'') := by
  rw [review, valid]
  dsimp only
  rw [ended]

theorem findings_normalized (v : Verdict) : v.normalized.findings = [] ↔ v.findings = [] := by
  rw [← List.length_eq_zero_iff, Verdict.normalized, List.length_mergeSort, List.length_eq_zero_iff]

theorem failures_normalized (v : Verdict) : v.normalized.failures = [] ↔ v.failures = [] := by
  rw [← List.length_eq_zero_iff, Verdict.normalized, List.length_mergeSort, List.length_eq_zero_iff]

theorem outcome_clean {v : Verdict} :
    Outcome.ofVerdict v = .clean ↔ v.failures = [] ∧ v.findings = [] := by
  unfold Outcome.ofVerdict Verdict.hasFailures Verdict.isClean
  cases v.failures <;> cases v.findings <;> simp

theorem outcome_unjudged {v : Verdict} : Outcome.ofVerdict v = .unjudged ↔ v.failures ≠ [] := by
  unfold Outcome.ofVerdict Verdict.hasFailures Verdict.isClean
  cases v.failures <;> cases v.findings <;> simp

end Reviewer

end PolicyLint
