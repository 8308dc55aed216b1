import PolicyLint.Proofs.Run.Provenance

/-!
# Judges that keep to keys

A judge that says the same about all tasks with one key says it on every attempt, in every run. What such
a judge makes of a task, its `judgment`, is then what every run comes to, whether the task is checked,
shares a verdict or is served with one that a run has filed before.
-/

namespace PolicyLint

/-- A judge that answers tasks with one key alike, whatever was asked before. -/
def Judge.ByKey {σ : Type} (judge : Judge σ) : Prop :=
  ∀ (s s' : σ) (t t' : Task), t.key = t'.key →
    (judge.ask s t.prompt t.model).1 = (judge.ask s' t'.prompt t'.model).1

/-- A run with a judge has filed a verdict under a key. -/
def Judge.HasFiled {σ : Type} (judge : Judge σ) (retry : Retry) (k : Key) (v : Verdict) : Prop :=
  ∃ (υ : Type) (store : Store υ) (groups : List (List Task)) (width bound : Nat) (w : World σ υ),
    0 < width ∧ 0 < bound ∧
      (k, v) ∈ (({ judge, store, retry } : Engine σ υ).runGroups width bound groups w).2.filedSince w

/-- Every lookup fails, finds nothing, finds an entry of another key, or finds an entry with a verdict
that was filed under its key. -/
def Store.Holds {τ : Type} (s : Store τ) (filed : Key → Verdict → Prop) (t : τ) : Prop :=
  ∀ (keys : List Key) (i : Nat) (k : Key) (entry : Entry), keys[i]? = some k →
    (s.answers keys t)[i]? = some (.ok (some entry)) → entry.key = k → filed k entry.verdict

namespace Engine

variable {σ τ : Type} {e : Engine σ τ}

/-! ### What a judge makes of a task -/

def answerTo (e : Engine σ τ) (s : σ) (t : Task) : Except JudgeFault Completion :=
  (e.settle 0 (e.judge.ask s t.prompt t.model).1).2.2

/-- What becomes of a task when every call brings the same. -/
def judgment (e : Engine σ τ) (s : σ) (t : Task) : Verdict :=
  match Conclusion.ofOutcome t e.retry.attempts 0 (e.answerTo s t) with
  | .judged findings => { findings }
  | .failed kind why => { failures := [failureOf t.job kind why] }
  | .again _ _ => {}

def SaysLike (v u : Verdict) : Prop := v.findings = u.findings ∧ v.failures = u.failures

theorem SaysLike.trans {v₁ v₂ v₃ : Verdict} (first : SaysLike v₁ v₂) (second : SaysLike v₂ v₃) : SaysLike v₁ v₃ :=
  ⟨first.1.trans second.1, first.2.trans second.2⟩

theorem SaysLike.retarget {v u : Verdict} (like : SaysLike v u) (path rule : String) :
    SaysLike (v.retarget path rule) (u.retarget path rule) := by
  constructor
  · rw [Verdict.retarget, Verdict.retarget, like.1]
  · rw [Verdict.retarget, Verdict.retarget, like.2]

theorem settle_outcome (e : Engine σ τ) (time : Nat) (r : Response) : (e.settle time r).2.2 = (e.settle 0 r).2.2 := by
  unfold settle
  split
  · rfl
  · rfl

theorem outcome_of_asks (byKey : e.judge.ByKey) {job : Job} {time : Nat} {call : Call} {t : Task}
    (asks : e.Asks job time call) (same : job.task.key = t.key) (s : σ) : call.outcome = e.answerTo s t := by
  obtain ⟨_, _, prompt, model, s', settled⟩ := asks
  have outcome := congrArg (fun x => x.2.2) settled
  dsimp only at outcome
  rw [← outcome, settle_outcome, prompt, model, byKey s' s job.task t same, answerTo]

/-- The conclusion of a transient fault, retargeted or not, depends on the attempts alone. -/
theorem ofOutcome_last {task : Task} {attempts left : Nat} {outcome : Except JudgeFault Completion}
    {kind : FailureKind} {why : String}
    (failed : Conclusion.ofOutcome task attempts left outcome = .failed kind why) :
    left = 0 ∨ ∀ attempts' left', Conclusion.ofOutcome task attempts' left' outcome = .failed kind why := by
  have transient : ∀ {why' : String}, Conclusion.ofTransient why' attempts left = .failed kind why → left = 0 := by
    intro why' h
    cases left with
    | zero => rfl
    | succ n => exact absurd h (by simp [Conclusion.ofTransient])
  unfold Conclusion.ofOutcome at failed ⊢
  split at failed
  · exact Or.inr fun _ _ => failed
  · exact Or.inl (transient failed)
  · split at failed
    · exact absurd failed (by simp)
    · exact Or.inl (transient failed)

theorem ofOutcome_judged {task : Task} {attempts left : Nat} {outcome : Except JudgeFault Completion}
    {findings : List Finding} (judged : Conclusion.ofOutcome task attempts left outcome = .judged findings)
    (attempts' left' : Nat) : Conclusion.ofOutcome task attempts' left' outcome = .judged findings := by
  have transient : ∀ {why : String}, Conclusion.ofTransient why attempts left ≠ .judged findings := by
    intro why h
    cases left with
    | zero => exact absurd h (by simp [Conclusion.ofTransient])
    | succ n => exact absurd h (by simp [Conclusion.ofTransient])
  unfold Conclusion.ofOutcome at judged ⊢
  split at judged
  · exact absurd judged (by simp)
  · exact absurd judged transient
  · split at judged
    · exact judged
    · exact absurd judged transient

theorem Passed.length_lt {job : Job} {started : Nat} {calls : List Call} {due : Nat}
    (passed : e.Passed job started calls due) : calls.length < e.retry.attempts := by
  cases passed with
  | none => exact Nat.le_max_right _ _
  | @more calls call why left before asks again =>
    have used := left_of_again (concludes.eq_def e job calls.length call ▸ again)
    rw [List.length_append, List.length_singleton]
    omega

/-- A check that is not stopped comes to the judgment of its task. -/
theorem After.judgment {stopped : Nat → Prop} (going : ∀ t, ¬stopped t) (byKey : e.judge.ByKey) {job : Job}
    {calls : List Call} {v : Verdict} (after : e.After stopped job calls (.inr v)) (s : σ) :
    SaysLike v (e.judgment s job.task) := by
  cases after with
  | @judged calls call started findings passed asks concluded =>
    rw [concludes, outcome_of_asks byKey asks rfl s] at concluded
    rw [Engine.judgment, ofOutcome_judged concluded]
    exact ⟨rfl, rfl⟩
  | @failed calls call started kind why passed asks concluded =>
    rw [concludes, outcome_of_asks byKey asks rfl s] at concluded
    have final : Conclusion.ofOutcome job.task e.retry.attempts 0 (e.answerTo s job.task) = .failed kind why := by
      rcases ofOutcome_last concluded with last | always
      · have less := passed.length_lt
        have attempts : calls.length + 1 = e.retry.attempts := by omega
        rw [attempts, Nat.sub_self] at concluded
        exact concluded
      · exact always _ _
    rw [Engine.judgment, final]
    exact ⟨rfl, rfl⟩
  | cancelled passed stop => exact absurd stop (going _)

/-! ### Judgments of tasks with one key -/

theorem ofOutcome_retarget (t t' : Task) (attempts left : Nat) (outcome : Except JudgeFault Completion) :
    Conclusion.ofOutcome t' attempts left outcome =
      match Conclusion.ofOutcome t attempts left outcome with
      | .judged findings => .judged (findings.map fun f => { f with path := t'.file.path, rule := t'.rule.name })
      | .failed kind why => .failed kind why
      | .again why left => .again why left := by
  have transient : ∀ why : String, Conclusion.ofTransient why attempts left =
      match Conclusion.ofTransient why attempts left with
      | .judged findings => .judged (findings.map fun f => { f with path := t'.file.path, rule := t'.rule.name })
      | .failed kind why => .failed kind why
      | .again why left => .again why left := by
    intro why
    cases left with
    | zero => rfl
    | succ n => rfl
  cases outcome with
  | error fault =>
    cases fault with
    | permanent why => rfl
    | transient why => exact transient why
  | ok completion =>
    unfold Conclusion.ofOutcome
    dsimp only
    rw [readCompletion_retarget completion.text t.file.path t.rule.name t'.file.path t'.rule.name]
    cases readCompletion completion.text t.file.path t.rule.name with
    | ok findings => rfl
    | error why => exact transient why

/-- The judgments of tasks with one key differ in their paths and the names of their rules alone. -/
theorem judgment_retarget (byKey : e.judge.ByKey) {t t' : Task} (same : t.key = t'.key) (s s' : σ) :
    SaysLike ((e.judgment s t).retarget t'.file.path t'.rule.name) (e.judgment s' t') := by
  have answers : e.answerTo s' t' = e.answerTo s t := by
    rw [answerTo, answerTo, byKey s' s t' t same.symm]
  unfold judgment
  rw [answers, ofOutcome_retarget t t' e.retry.attempts 0 (e.answerTo s t)]
  cases Conclusion.ofOutcome t e.retry.attempts 0 (e.answerTo s t) with
  | judged findings => exact ⟨rfl, rfl⟩
  | failed kind why => exact ⟨rfl, rfl⟩
  | again why left => exact ⟨rfl, rfl⟩

theorem findings_of_failures {s : σ} {t : Task} (failed : (e.judgment s t).failures ≠ []) :
    (e.judgment s t).findings = [] := by
  unfold judgment at failed ⊢
  split
  · rename_i findings judged
    rw [judged] at failed
    exact absurd rfl failed
  · rfl
  · rfl

/-! ### Filed verdicts -/

/-- What a check files for a key is the judgment of every task with the key. -/
theorem judgment_of_files (byKey : e.judge.ByKey) {t : Task} {v : Verdict} (files : e.Files t.key v) (s : σ) :
    SaysLike (v.servedTo t) (e.judgment s t) := by
  obtain ⟨t', calls, same, after, judged⟩ := files
  have like : SaysLike v (e.judgment s t') := by
    rcases after.judged_or_failed with ⟨kind, why, failed, _⟩ | ⟨_, call, _, asks, completion, brought, read⟩
    · rw [judged] at failed
      exact absurd failed (by simp)
    · have answer : e.answerTo s t' = .ok completion := (outcome_of_asks byKey asks rfl s).symm.trans brought
      unfold judgment
      rw [answer, Conclusion.ofOutcome, read]
      exact ⟨rfl, judged⟩
  exact SaysLike.trans (like.retarget t.file.path t.rule.name) (judgment_retarget byKey same.symm s s)

/-- So is what a whole run with a judge has filed. -/
theorem judgment_of_hasFiled (byKey : e.judge.ByKey) {t : Task} {v : Verdict}
    (filed : e.judge.HasFiled e.retry t.key v) (s : σ) :
    SaysLike (v.servedTo t) (e.judgment s t) := by
  obtain ⟨υ, store, groups, width, bound, w, wide, room, member⟩ := filed
  obtain ⟨time, sourced⟩ := runGroups_sourced { judge := e.judge, store, retry := e.retry } groups wide room (stops_always w)
  exact judgment_of_files (e := { judge := e.judge, store, retry := e.retry }) byKey (sourced.files _ member) s

/-- A task that is answered without being stopped is answered with its judgment. -/
theorem Answered.judgment {stopped : Nat → Prop} {written : Key → Verdict → Prop} {task : Task} {v : Verdict}
    (answered : e.Answered stopped written task v) (going : ∀ t, ¬stopped t) (byKey : e.judge.ByKey) (s : σ)
    (known : ∀ u, written task.key u → SaysLike (u.servedTo task) (e.judgment s task)) :
    SaysLike v (e.judgment s task) := by
  cases answered with
  | served before =>
    rcases before with before | files
    · exact known _ before
    · exact judgment_of_files byKey files s
  | checked after => exact after.judgment going byKey s
  | @shared u calls t same after =>
    have like := after.judgment going byKey s
    dsimp only at like
    by_cases judged : u.failures = []
    · rw [Verdict.sharedWith_of_no_failures judged]
      exact SaysLike.trans (like.retarget task.file.path task.rule.name) (judgment_retarget byKey same s s)
    · rw [Verdict.sharedWith_of_failures judged]
      have failed := judged
      rw [like.2] at failed
      have findings := findings_of_failures failed
      refine SaysLike.trans ?_ (judgment_retarget byKey same s s)
      constructor
      · rw [Verdict.retarget, Verdict.retarget, findings]
      · rw [Verdict.retarget, Verdict.retarget, like.2]

/-! ### Runs -/

section Places

variable {stopped : Nat → Prop} {tasks : List Task} {w w' : World σ τ} {results : Key → Verdict}
  {verdicts : List Verdict}

theorem Ran.answered_of_holds (ran : e.Ran stopped tasks w w' results verdicts) {written : Key → Verdict → Prop}
    (holds : e.store.Holds written w.store) {i : Nat} {task : Task} {v : Verdict} (here : tasks[i]? = some task)
    (verdict : verdicts[i]? = some v) : e.Answered stopped written task v := by
  rcases ran.cases here with ⟨u, served, is⟩ | ⟨first, is⟩ | ⟨_, ⟨j, t, _, same, first⟩, is⟩
  · obtain rfl := Option.some.inj (verdict.symm.trans is)
    obtain ⟨answer, answered, has⟩ := found_getElem? e (t := w.store) here
    obtain ⟨entry, rfl, own, rfl⟩ := Store.verdictFor_eq_some (Option.some.inj (has.symm.trans served))
    have key : (tasks.map Task.key)[i]? = some task.key := by
      rw [List.getElem?_map, here]
      rfl
    exact .served (Or.inl (holds _ i task.key entry key answered own))
  · obtain rfl := Option.some.inj (verdict.symm.trans is)
    exact .checked (ran.checked first)
  · obtain rfl := Option.some.inj (verdict.symm.trans is)
    have after := ran.checked first
    rw [same] at after
    exact .shared same after

/-- Every task of a run that is not stopped comes to its judgment. -/
theorem Ran.judgment (ran : e.Ran stopped tasks w w' results verdicts) (going : ∀ t, ¬stopped t)
    (byKey : e.judge.ByKey) (holds : e.store.Holds (e.judge.HasFiled e.retry) w.store) (s : σ) {i : Nat} {task : Task}
    {v : Verdict} (here : tasks[i]? = some task) (verdict : verdicts[i]? = some v) :
    SaysLike v (e.judgment s task) :=
  (ran.answered_of_holds holds here verdict).judgment going byKey s fun _ filed => judgment_of_hasFiled byKey filed s

end Places

end Engine

end PolicyLint
