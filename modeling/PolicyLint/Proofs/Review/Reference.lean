import PolicyLint.Proofs.Review.Basic
import PolicyLint.Proofs.Review.Input
import PolicyLint.Proofs.Run.Keyed

/-!
# Reviews and their reference

The reference of a review checks every rule on every file by itself, one after the other and without a
store. `review_reference` says that a review whose judge keeps to keys reports the same, whatever is
stored, shared or checked at once.
-/

namespace PolicyLint

namespace Reviewer

variable {σ τ : Type}

/-! ### The reference -/

def unstored (r : Reviewer σ τ) : Reviewer σ Unit where
  engine := { judge := r.engine.judge, store := .forgetful, retry := r.engine.retry }
  model := r.model
  concurrency := r.concurrency

def subjects (files : List SourceFile) (rule : Rule) : List SourceFile :=
  match rule.scope with
  | .file => files
  | .project => if files.isEmpty then [] else [.project files]

/-- What a file comes to under a rule when nothing else is checked and nothing is stored. -/
def alone (r : Reviewer σ τ) (s : σ) (rule : Rule) (file : SourceFile) : Verdict :=
  (r.unstored.reviewOne file rule { judge := s, store := () }).1.1

/-- What the checks of a review come to, each of them made alone. -/
def reference (r : Reviewer σ τ) (files : List SourceFile) (rules : List Rule) (s : σ) : Verdict :=
  (Verdict.fold ((activeRules rules).flatMap fun rule => (subjects files rule).map (r.alone s rule))).normalized

theorem ofRule_eq (model : Model) (files : List SourceFile) (rule : Rule) :
    Task.ofRule model files rule = (subjects files rule).map fun file => { file, rule, model } := by
  unfold Task.ofRule subjects
  cases rule.scope with
  | file => rfl
  | project =>
    cases files.isEmpty with
    | true => rfl
    | false => rfl

def aloneOn (r : Reviewer σ τ) (s : σ) (t : Task) : Verdict := r.alone s t.rule t.file

theorem reference_eq (r : Reviewer σ τ) (files : List SourceFile) (rules : List Rule) (s : σ) :
    r.reference files rules s = (Verdict.fold ((r.tasks files rules).map (r.aloneOn s))).normalized := by
  have same : (activeRules rules).flatMap (fun rule => (subjects files rule).map (r.alone s rule)) =
      (r.tasks files rules).map (r.aloneOn s) := by
    rw [tasks, Task.ofRules, List.map_flatMap]
    congr 1
    funext rule
    rw [ofRule_eq, List.map_map]
    rfl
  rw [reference, same]

/-! ### Single checks -/

theorem forgetful_holds (filed : Key → Verdict → Prop) : Store.forgetful.Holds filed () := by
  have nothing : ∀ (keys : List Key), ∀ answer ∈ Store.forgetful.answers keys (), answer = .ok none := by
    intro keys
    induction keys with
    | nil => simp [Store.answers]
    | cons k rest ih =>
      intro answer member
      rcases List.mem_cons.mp member with rfl | later
      · rfl
      · exact ih answer later
  intro keys i k entry _ answered _
  exact absurd (nothing keys _ (List.mem_of_getElem? answered)) (by simp)

theorem flatten_runGroups {e : Engine σ τ} {tasks : List Task} {w w' : World σ τ} {verdicts : List Verdict}
    {elapsed : Nat} (ended : e.run tasks 1 w = .ok ((verdicts, elapsed), w')) :
    (e.runGroups 1 1 [tasks] w).1.1.flatten = verdicts := by
  rw [Engine.run, if_neg Nat.one_ne_zero] at ended
  rcases ran : e.runGroups 1 1 [tasks] w with ⟨⟨listed, time⟩, w''⟩
  rw [ran] at ended
  exact (Prod.mk.inj (Prod.mk.inj (Except.ok.inj ended)).1).1

theorem alone_judgment (r : Reviewer σ τ) (byKey : r.engine.judge.ByKey) (calm : r.engine.judge.Calm) (s : σ)
    {t : Task} (model : t.model = r.model) : Engine.SaysLike (r.aloneOn s t) (r.engine.judgment s t) := by
  have stops : r.unstored.engine.Stops (fun _ => False) { judge := s, store := () } :=
    Engine.stops_never (e := r.unstored.engine) calm rfl rfl
  obtain ⟨verdicts, elapsed, w', results, ended, ran, _⟩ :=
    Engine.run_ran r.unstored.engine [t] Nat.one_pos stops
  obtain ⟨v, rfl⟩ := List.length_eq_one_iff.mp ran.length
  have like := ran.judgment (fun _ stop => stop) byKey (forgetful_holds _) s (i := 0) rfl rfl
  have task : { file := t.file, rule := t.rule, model := r.unstored.model } = t := by
    obtain ⟨file, rule, _⟩ := t
    obtain rfl := model
    rfl
  have made : r.aloneOn s t = v := by
    have flat := flatten_runGroups ended
    rw [aloneOn, alone, reviewOne, task]
    rcases together : r.unstored.engine.runGroups 1 1 [[t]] { judge := s, store := () } with ⟨⟨listed, time⟩, w''⟩
    rw [together] at flat
    dsimp only at flat ⊢
    rw [flat]
    rfl
  rw [made]
  exact like

/-! ### Whole reviews -/

theorem model_of_mem_tasks {r : Reviewer σ τ} {files : List SourceFile} {rules : List Rule} {t : Task}
    (member : t ∈ r.tasks files rules) : t.model = r.model := by
  rw [tasks, Task.ofRules, List.mem_flatMap] at member
  obtain ⟨rule, _, known⟩ := member
  rw [ofRule_eq] at known
  obtain ⟨file, _, rfl⟩ := List.mem_map.mp known
  rfl

theorem map_eq_of_saysLike {tasks : List Task} {verdicts : List Verdict} {alone : Task → Verdict}
    (long : verdicts.length = tasks.length)
    (like : ∀ (i : Nat) (t : Task) (v : Verdict), tasks[i]? = some t → verdicts[i]? = some v →
      Engine.SaysLike v (alone t)) :
    verdicts.map Verdict.findings = (tasks.map alone).map Verdict.findings ∧
      verdicts.map Verdict.failures = (tasks.map alone).map Verdict.failures := by
  have both : ∀ i (h : i < verdicts.length) (h' : i < tasks.length), Engine.SaysLike verdicts[i] (alone tasks[i]) :=
    fun i h h' => like i _ _ (List.getElem?_eq_getElem h') (List.getElem?_eq_getElem h)
  constructor
  · apply List.ext_getElem (by simp [long])
    intro i h h'
    simp only [List.getElem_map]
    exact (both i (by simpa using h) (by simpa using h')).1
  · apply List.ext_getElem (by simp [long])
    intro i h h'
    simp only [List.getElem_map]
    exact (both i (by simpa using h) (by simpa using h')).2

/-- What is reported of verdicts depends on what each of them says alone. -/
theorem report_congr {verdicts others : List Verdict}
    (findings : verdicts.map Verdict.findings = others.map Verdict.findings)
    (failures : verdicts.map Verdict.failures = others.map Verdict.failures) :
    (Verdict.fold verdicts).normalized.findings = (Verdict.fold others).normalized.findings ∧
      (Verdict.fold verdicts).normalized.failures = (Verdict.fold others).normalized.failures := by
  constructor
  · show (Verdict.fold verdicts).findings.mergeSort _ = (Verdict.fold _).findings.mergeSort _
    rw [Verdict.findings_fold, Verdict.findings_fold, List.flatMap_def, findings, ← List.flatMap_def]
  · show (Verdict.fold verdicts).failures.mergeSort _ = (Verdict.fold _).failures.mergeSort _
    rw [Verdict.failures_fold, Verdict.failures_fold, List.flatMap_def, failures, ← List.flatMap_def]

/-- What a review reports is what its judge makes of each task. The judge keeps to keys and the store gives out what was
filed with this judge. -/
theorem review_judgments (r : Reviewer σ τ) {files : List SourceFile} {rules : List Rule} {w : World σ τ}
    (valid : validateInputs files rules = .ok ()) (positive : 0 < r.concurrency) (byKey : r.engine.judge.ByKey)
    (calm : r.engine.judge.Calm) (going : w.aborted = false) (unlimited : w.abortAt = none)
    (holds : r.engine.store.Holds (r.engine.judge.HasFiled r.engine.retry) w.store) (s : σ) :
    ∃ v elapsed w', r.review files rules w = (.ok (v, elapsed), w') ∧
      Engine.SaysLike v (Verdict.fold ((r.tasks files rules).map (r.engine.judgment s))).normalized := by
  obtain ⟨verdicts, elapsed, w', results, ended, ran, _⟩ :=
    Engine.run_ran r.engine (r.tasks files rules) (w := w.noteSkipped rules) positive
      (Engine.stops_never calm going unlimited)
  obtain ⟨findings, failures⟩ := map_eq_of_saysLike ran.length fun i t v here verdict =>
    ran.judgment (fun _ stop => stop) byKey holds s here verdict
  exact ⟨_, elapsed, _, review_of_valid valid ended, report_congr findings failures⟩

/-- A review reports what its checks come to when each of them is made alone, in the order of files and
rules. The judge keeps to keys and the store gives out what was filed with this judge. -/
theorem review_reference (r : Reviewer σ τ) {files : List SourceFile} {rules : List Rule} {w : World σ τ}
    (someRule : rules ≠ []) (valid : ∀ rule ∈ rules, Rule.isValidName rule.name = true)
    (distinct : (rules.map Rule.name).Nodup) (paths : (files.map SourceFile.path).Nodup)
    (positive : 0 < r.concurrency) (byKey : r.engine.judge.ByKey) (calm : r.engine.judge.Calm)
    (going : w.aborted = false) (unlimited : w.abortAt = none)
    (holds : r.engine.store.Holds (r.engine.judge.HasFiled r.engine.retry) w.store) (s : σ) :
    ∃ v elapsed w', r.review files rules w = (.ok (v, elapsed), w') ∧
      v.findings = (r.reference files rules s).findings ∧ v.failures = (r.reference files rules s).failures := by
  obtain ⟨v, elapsed, w', reviewed, findings, failures⟩ :=
    r.review_judgments (validateInputs_ok someRule valid distinct paths) positive byKey calm going unlimited holds s
  refine ⟨v, elapsed, w', reviewed, ?_⟩
  have alone : ∀ t ∈ r.tasks files rules, Engine.SaysLike (r.engine.judgment s t) (r.aloneOn s t) := by
    intro t member
    have single := r.alone_judgment byKey calm s (model_of_mem_tasks member)
    exact ⟨single.1.symm, single.2.symm⟩
  obtain ⟨sameFindings, sameFailures⟩ :=
    @report_congr ((r.tasks files rules).map (r.engine.judgment s)) ((r.tasks files rules).map (r.aloneOn s))
      (by simpa using fun t member => (alone t member).1) (by simpa using fun t member => (alone t member).2)
  rw [reference_eq]
  exact ⟨findings.trans sameFindings, failures.trans sameFailures⟩

theorem constant_byKey (response : Response) : (Judge.constant response).ByKey := fun _ _ _ _ _ => rfl

theorem review_reference_of_agreement :
    let r : Reviewer Unit Unit :=
      { engine := { judge := .constant { outcome := .ok { text := "\x7b\"violations\": []\x7d" } }
                    store := .forgetful, retry := {} } }
    let files : List SourceFile := [⟨"b.ts", "const a = 1;"⟩, ⟨"a.ts", "const a = 1;"⟩]
    let rules : List Rule :=
      [{ name := "no-let", description := "Use const." }, { name := "whole", description := "All.", scope := .project }]
    ∃ v elapsed w', r.review files rules { judge := (), store := () } = (.ok (v, elapsed), w') ∧
      v.findings = (r.reference files rules ()).findings ∧ v.failures = (r.reference files rules ()).failures := by
  intro r files rules
  exact review_reference r (by simp [rules]) (by decide) (by decide) (by decide) (by decide) (constant_byKey _)
    (fun _ _ _ => rfl) rfl rfl (forgetful_holds _) ()

/-- A review without rules is refused, so the reference of no rules is not what it comes to. -/
theorem not_review_reference_of_no_rules :
    ¬∀ (r : Reviewer Unit Unit) (files : List SourceFile) (rules : List Rule) (w : World Unit Unit),
      (∀ rule ∈ rules, Rule.isValidName rule.name = true) → (rules.map Rule.name).Nodup →
      (files.map SourceFile.path).Nodup → 0 < r.concurrency → r.engine.judge.ByKey → r.engine.judge.Calm →
      w.aborted = false → w.abortAt = none → r.engine.store.Holds (r.engine.judge.HasFiled r.engine.retry) w.store →
      ∃ v elapsed w', r.review files rules w = (.ok (v, elapsed), w') ∧
        v.findings = (r.reference files rules ()).findings ∧ v.failures = (r.reference files rules ()).failures := by
  intro claim
  obtain ⟨v, elapsed, w', reviewed, _⟩ := claim
    { engine := { judge := .constant { outcome := .error (.permanent "busy") }, store := .forgetful, retry := {} } }
    [⟨"a.ts", "const a = 1;"⟩] [] { judge := (), store := () } (by simp) (by simp) (by simp) (by decide)
    (constant_byKey _) (fun _ _ _ => rfl) rfl rfl (forgetful_holds _)
  have refused := congrArg Prod.fst reviewed
  exact absurd refused (by simp [review, validateInputs, validateRules, bind, Except.bind])

end Reviewer

end PolicyLint
