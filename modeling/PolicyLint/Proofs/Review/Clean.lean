import PolicyLint.Proofs.Review.Reference

/-!
# Clean reviews

A review is clean only if every task was cleared, by an entry of the store or by a completion of its own
run. A task that could not be judged never gets lost on the way to the outcome.
-/

namespace PolicyLint

/-- A task is cleared by what the store answers, or by a completion among some calls. -/
def Cleared (task : Task) (answer : Except StoreFault (Option Entry)) (made : List Call) : Prop :=
  (∃ entry, answer = .ok (some entry) ∧ entry.key = task.key ∧ entry.verdict.findings = [] ∧
      entry.verdict.failures = []) ∨
    ∃ call ∈ made, call.key = task.key ∧ ∃ completion, call.outcome = .ok completion ∧
      readCompletion completion.text task.file.path task.rule.name = .ok []

namespace Engine

variable {σ τ : Type} {e : Engine σ τ} {stopped : Nat → Prop}

theorem retarget_eq_nil {v : Verdict} {task : Task} (findings : (v.servedTo task).findings = [])
    (failures : (v.servedTo task).failures = []) : v.findings = [] ∧ v.failures = [] :=
  ⟨List.map_eq_nil_iff.mp findings, List.map_eq_nil_iff.mp failures⟩

section Places

variable {tasks : List Task} {w w' : World σ τ} {results : Key → Verdict} {verdicts : List Verdict}

theorem Ran.accepted (ran : e.Ran stopped tasks w w' results verdicts) {i : Nat} {t : Task}
    (first : FirstMissed tasks (e.found tasks w.store) i t) (judged : (results t.key).failures = []) :
    ∃ call ∈ w'.callsSince w, call.key = t.key ∧ ∃ completion, call.outcome = .ok completion ∧
      readCompletion completion.text t.file.path t.rule.name = .ok (results t.key).findings := by
  rcases (ran.checked first).judged_or_failed with ⟨kind, why, failed, _⟩ | ⟨_, call, member, _, completion, brought, read⟩
  · rw [judged] at failed
    exact absurd failed (by simp)
  · obtain ⟨made, same⟩ := Call.mem_forKey.mp member
    exact ⟨call, made, same, completion, brought, read⟩

theorem Ran.cleared (ran : e.Ran stopped tasks w w' results verdicts) {i : Nat} {task : Task} {v : Verdict}
    (here : tasks[i]? = some task) (verdict : verdicts[i]? = some v) (findings : v.findings = [])
    (failures : v.failures = []) :
    ∃ answer, (e.store.answers (tasks.map Task.key) w.store)[i]? = some answer ∧
      Cleared task answer (w'.callsSince w) := by
  obtain ⟨answer, answered, has⟩ := found_getElem? e (t := w.store) here
  refine ⟨answer, answered, ?_⟩
  rcases ran.cases here with ⟨u, served, is⟩ | ⟨first, is⟩ | ⟨_, ⟨j, t, _, same, first⟩, is⟩
  · obtain rfl := Option.some.inj (verdict.symm.trans is)
    obtain ⟨noFindings, noFailures⟩ := retarget_eq_nil findings failures
    obtain ⟨entry, holds, own, rfl⟩ := Store.verdictFor_eq_some (Option.some.inj (has.symm.trans served))
    exact Or.inl ⟨entry, holds, own, noFindings, noFailures⟩
  · obtain rfl := Option.some.inj (verdict.symm.trans is)
    obtain ⟨call, made, own, completion, brought, read⟩ := ran.accepted first failures
    rw [findings] at read
    exact Or.inr ⟨call, made, own, completion, brought, read⟩
  · obtain rfl := Option.some.inj (verdict.symm.trans is)
    have judged : (results task.key).failures = [] := by
      by_cases none : (results task.key).failures = []
      · exact none
      · rw [Verdict.sharedWith_of_failures none] at failures
        exact absurd (List.map_eq_nil_iff.mp failures) none
    rw [Verdict.sharedWith_of_no_failures judged] at findings
    have noFindings : (results task.key).findings = [] := List.map_eq_nil_iff.mp findings
    obtain ⟨call, made, own, completion, brought, read⟩ := ran.accepted first (by rw [same]; exact judged)
    rw [same, noFindings] at read
    refine Or.inr ⟨call, made, own.trans same, completion, brought, ?_⟩
    rw [readCompletion_retarget _ t.file.path t.rule.name, read]
    rfl

/-- A task that the store misses and that no completion answers has a failure. -/
theorem Ran.failed (ran : e.Ran stopped tasks w w' results verdicts) {i : Nat} {task : Task}
    (here : tasks[i]? = some task) (missed : (e.found tasks w.store)[i]? = some none)
    (unread : ∀ call ∈ w'.callsSince w, call.key = task.key → ∀ completion, call.outcome = .ok completion →
      ∀ findings, readCompletion completion.text task.file.path task.rule.name ≠ .ok findings) :
    ∃ v ∈ verdicts, v.failures ≠ [] := by
  obtain ⟨j, t, _, same, first⟩ := exists_firstMissed here missed
  refine ⟨results t.key, List.mem_of_getElem? (ran.checked_verdict first), ?_⟩
  intro judged
  obtain ⟨call, made, own, completion, brought, read⟩ := ran.accepted first judged
  refine unread call made (own.trans same) completion brought
    ((results t.key).findings.map fun f => { f with path := task.file.path, rule := task.rule.name }) ?_
  rw [readCompletion_retarget _ t.file.path t.rule.name, read]
  rfl

end Places

end Engine

namespace Reviewer

variable {σ τ : Type}

/-- No review is clean by accident. If its outcome is clean, each of its tasks was cleared. If some task
failed, or was missed by the store and answered by no completion, it is unjudged. -/
theorem review_outcome (r : Reviewer σ τ) {files : List SourceFile} {rules : List Rule} {w w' : World σ τ}
    {v : Verdict} {elapsed : Nat} (reviewed : r.review files rules w = (.ok (v, elapsed), w')) :
    ∃ verdicts w'' made, r.engine.run (r.tasks files rules) r.concurrency (w.noteSkipped rules) =
        .ok ((verdicts, elapsed), w'') ∧
      w'.calls = w.calls ++ made ∧
      (Outcome.ofVerdict v = .clean → ∀ (i : Nat) (task : Task), (r.tasks files rules)[i]? = some task →
        ∃ answer, (r.engine.store.answers ((r.tasks files rules).map Task.key) w.store)[i]? = some answer ∧
          Cleared task answer made) ∧
      ((∃ u ∈ verdicts, u.failures ≠ []) → Outcome.ofVerdict v = .unjudged) ∧
      ∀ (i : Nat) (task : Task), (r.tasks files rules)[i]? = some task →
        (r.engine.found (r.tasks files rules) w.store)[i]? = some none →
        (∀ call ∈ made, call.key = task.key → ∀ completion, call.outcome = .ok completion →
          ∀ findings, readCompletion completion.text task.file.path task.rule.name ≠ .ok findings) →
        Outcome.ofVerdict v = .unjudged := by
  obtain ⟨verdicts, w'', ended, rfl, rfl⟩ := review_eq_ok reviewed
  obtain ⟨results, ran, _⟩ := Engine.ran_of_run (Engine.stops_always (w.noteSkipped rules)) ended
  have unjudged : (∃ u ∈ verdicts, u.failures ≠ []) →
      Outcome.ofVerdict (Verdict.fold verdicts).normalized = .unjudged := by
    rintro ⟨u, member, failed⟩
    rw [outcome_unjudged, Ne, failures_normalized, Verdict.failures_fold, List.flatMap_eq_nil_iff]
    exact fun none => failed (none u member)
  refine ⟨verdicts, w'', w''.callsSince (w.noteSkipped rules), ended, ?_, ?_, unjudged, ?_⟩
  · rw [(save_eq r w'').1]
    exact ran.calls
  · intro clean i task here
    rw [outcome_clean, failures_normalized, findings_normalized, Verdict.failures_fold, Verdict.findings_fold,
      List.flatMap_eq_nil_iff, List.flatMap_eq_nil_iff] at clean
    have inside : i < verdicts.length := by
      rw [ran.length]
      exact (List.getElem?_eq_some_iff.mp here).1
    have verdict : verdicts[i]? = some verdicts[i] := List.getElem?_eq_getElem inside
    have member : verdicts[i] ∈ verdicts := List.getElem_mem inside
    exact ran.cleared here verdict (clean.2 _ member) (clean.1 _ member)
  · intro i task here missed unread
    exact unjudged (ran.failed here missed unread)

theorem review_outcome_of_agreement :
    let r : Reviewer Unit Unit :=
      { engine := { judge := .constant { outcome := .ok { text := "\x7b\"violations\": []\x7d" } }
                    store := .forgetful, retry := {} } }
    let files : List SourceFile := [⟨"a.ts", "const a = 1;"⟩]
    let rules : List Rule := [{ name := "no-let", description := "Use const." }]
    ∃ v elapsed w', r.review files rules { judge := (), store := () } = (.ok (v, elapsed), w') ∧
      Outcome.ofVerdict v = .clean ∧ ∀ (i : Nat) (task : Task), (r.tasks files rules)[i]? = some task →
        ∃ answer, Cleared task answer w'.calls := by
  intro r files rules
  have valid : validateInputs files rules = .ok () := by rfl
  obtain ⟨v, elapsed, w', reviewed, findings, failures⟩ := r.review_judgments (w := { judge := (), store := () }) valid
    (by decide) (constant_byKey _) (fun _ _ _ => rfl) rfl rfl (forgetful_holds _) ()
  have isClean : Outcome.ofVerdict v = .clean := by
    rw [outcome_clean, findings, failures]
    decide +kernel
  obtain ⟨_, _, made, _, calls, clean, _⟩ := review_outcome r reviewed
  refine ⟨v, elapsed, w', reviewed, isClean, ?_⟩
  intro i task here
  obtain ⟨answer, _, cleared⟩ := clean isClean i task here
  rw [calls]
  exact ⟨answer, cleared⟩

end Reviewer

end PolicyLint
