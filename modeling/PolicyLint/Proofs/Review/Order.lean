import PolicyLint.Proofs.Review.Preview
import PolicyLint.Proofs.Run.Order
import PolicyLint.Proofs.Verdict.Normal

/-!
# The order of files and rules

A review reports in the order of places, and what it reports of a place goes by the key of its task. So with a store
and a judge that go by keys, neither the order in which files and rules are given nor the count of checks that go on at
once shows in the result, its time apart.
-/

namespace PolicyLint

namespace Verdict

theorem apart_of_speaksOf {v u : Verdict} {path rule path' rule' : String} (first : v.SpeaksOf path rule)
    (second : u.SpeaksOf path' rule') (different : (path, rule) ≠ (path', rule')) : Apart v u where
  findings f said g said' same :=
    different ((Prod.ext (first.1 f said).1.symm (first.1 f said).2.symm).trans
      (same.trans (Prod.ext (second.1 g said').1 (second.1 g said').2)))
  failures f said g said' same :=
    different ((Prod.ext (first.2 f said).1.symm (first.2 f said).2.symm).trans
      (same.trans (Prod.ext (second.2 g said').1 (second.2 g said').2)))

theorem untimed_eq_of_cost {v u : Verdict} (findings : v.findings = u.findings) (failures : v.failures = u.failures)
    (cost : v.cost = u.cost) : v.untimed = u.untimed := by
  have whole : ∀ v : Verdict, v.untimed = { v.cost with findings := v.findings, failures := v.failures } := fun _ => rfl
  rw [whole v, whole u, findings, failures, cost]

end Verdict

/-! ### Permuted input -/

theorem validateInputs_of_perm {files files' : List SourceFile} {rules rules' : List Rule}
    (valid : validateInputs files rules = .ok ()) (sameFiles : files.Perm files') (sameRules : rules.Perm rules') :
    validateInputs files' rules' = .ok () := by
  rcases validateInputs_cases False files rules with ⟨_, some, named, paths⟩ | ⟨fault, refused, _⟩
  · refine validateInputs_ok (fun none => ?_) (fun rule member => ?_) ?_ ?_
    · rw [none] at sameRules
      exact some sameRules.eq_nil
    · exact named.valid rule (sameRules.symm.subset member)
    · exact (sameRules.map Rule.name).nodup_iff.mp named.distinct
    · exact (sameFiles.map SourceFile.path).nodup_iff.mp paths
  · rw [refused] at valid
    exact absurd valid (by simp)

namespace Reviewer

variable {σ τ : Type}

theorem tasks_perm (r : Reviewer σ τ) {files files' : List SourceFile} {rules rules' : List Rule}
    (forFiles : ∀ rule ∈ rules, rule.scope = .file) (sameFiles : files.Perm files') (sameRules : rules.Perm rules') :
    (r.tasks files rules).Perm (r.tasks files' rules') := by
  have ofRule : ∀ rule ∈ activeRules rules, (Task.ofRule r.model files rule).Perm (Task.ofRule r.model files' rule) := by
    intro rule active
    have scope := forFiles rule (List.mem_filter.mp active).1
    rw [Task.ofRule, Task.ofRule, scope]
    exact sameFiles.map _
  have active : (activeRules rules).Perm (activeRules rules') := sameRules.filter _
  exact (List.Perm.flatMap_left _ ofRule).trans (active.flatMap_right _)

theorem apart_replies (r : Reviewer σ τ) {files : List SourceFile} {rules : List Rule}
    (valid : validateInputs files rules = .ok ()) (answers : Key → Except StoreFault (Option Entry))
    (script : Key → Nat → Response) :
    ((r.tasks files rules).map (r.engine.replyTo answers script)).Pairwise Verdict.Apart := by
  refine List.pairwise_map.mpr ((List.pairwise_map.mp (r.nodup_places valid)).imp fun {t u} different => ?_)
  exact Verdict.apart_of_speaksOf (r.engine.speaksOf_replyTo answers script t) (r.engine.speaksOf_replyTo answers script u)
    different

/-! ### Reviews that are told by keys -/

section Telling

variable {r : Reviewer σ τ} {files files' : List SourceFile} {rules rules' : List Rule} {w : World σ τ}
  {answers : Key → Except StoreFault (Option Entry)} {script : Key → Nat → Response}

theorem review_told {tasks : List Task} (valid : validateInputs files rules = .ok ()) (positive : 0 < r.concurrency)
    (calm : r.engine.judge.Calm) (going : w.aborted = false) (unlimited : w.abortAt = none)
    (fixed : r.engine.store.AnswersBy answers w.store) (counts : r.engine.judge.Counts script tasks w.judge)
    (known : ∀ t ∈ r.tasks files rules, t ∈ tasks) :
    ∃ verdicts elapsed w' w'' results, r.review files rules w = (.ok ((Verdict.fold verdicts).normalized, elapsed), w'') ∧
      r.engine.Told answers script (r.tasks files rules) (w.noteSkipped rules) w' results verdicts := by
  obtain ⟨verdicts, elapsed, w', results, ended, ran, _⟩ :=
    Engine.run_ran r.engine (r.tasks files rules) (w := w.noteSkipped rules) positive (Engine.stops_never calm going unlimited)
  have counts' : r.engine.judge.Counts script (r.tasks files rules) (w.noteSkipped rules).judge :=
    fun before t listed member => counts before t (fun u asked => known u (listed u asked)) (known t member)
  exact ⟨verdicts, elapsed, w', r.save w', results, review_of_valid valid ended, ran, fixed,
    Engine.run_hears counts' ended positive⟩

/-- Neither the order of files and of rules for files nor how many checks may go on at once shows in what a review
reports and counts. Its store answers by keys, and its judge by keys and by how often it was asked for them. -/
theorem review_of_perm (r : Reviewer σ τ) {concurrency : Nat} (valid : validateInputs files rules = .ok ())
    (forFiles : ∀ rule ∈ rules, rule.scope = .file) (sameFiles : files.Perm files') (sameRules : rules.Perm rules')
    (positive : 0 < r.concurrency) (positive' : 0 < concurrency) (calm : r.engine.judge.Calm) (going : w.aborted = false)
    (unlimited : w.abortAt = none) (fixed : r.engine.store.AnswersBy answers w.store)
    (counts : r.engine.judge.Counts script (r.tasks files rules) w.judge) :
    ∃ v elapsed w₁ v' elapsed' w₂, r.review files rules w = (.ok (v, elapsed), w₁) ∧
      { r with concurrency }.review files' rules' w = (.ok (v', elapsed'), w₂) ∧ v.untimed = v'.untimed := by
  have perm : (r.tasks files rules).Perm (r.tasks files' rules') := r.tasks_perm forFiles sameFiles sameRules
  have valid' := validateInputs_of_perm valid sameFiles sameRules
  obtain ⟨verdicts, elapsed, w', w₁, results, reviewed, told⟩ :=
    review_told valid positive calm going unlimited fixed counts fun t member => member
  obtain ⟨verdicts', elapsed', w'', w₂, results', reviewed', told'⟩ :=
    review_told (r := { r with concurrency }) valid' positive' calm going unlimited fixed counts
      fun t member => perm.symm.subset member
  refine ⟨_, elapsed, w₁, _, elapsed', w₂, reviewed, reviewed', ?_⟩
  have replies := Verdict.normalized_of_perm (r.apart_replies valid answers script)
    (perm.map (r.engine.replyTo answers script))
  obtain ⟨findings, failures⟩ := report_congr told.said.1 told.said.2
  obtain ⟨findings', failures'⟩ := report_congr told'.said.1 told'.said.2
  refine Verdict.untimed_eq_of_cost ?_ ?_ (told.cost_eq told' perm)
  · exact findings.trans ((congrArg Verdict.findings replies).trans findings'.symm)
  · exact failures.trans ((congrArg Verdict.failures replies).trans failures'.symm)

end Telling

/-! ### A judge that is busy at first -/

end Reviewer

/-- Fails for now when it is asked for the first time, and then always answers the same. -/
def Judge.busyAtFirst (completion : Completion) : Judge Nat where
  ask n _ _ := ({ outcome := if n = 0 then .error (.transient "busy") else .ok completion }, n + 1)

theorem Judge.asked_busyAtFirst (completion : Completion) (n : Nat) (tasks : List Task) :
    (Judge.busyAtFirst completion).asked n tasks = n + tasks.length := by
  induction tasks generalizing n with
  | nil => rfl
  | cons t rest ih =>
    show (Judge.busyAtFirst completion).asked (n + 1) rest = _
    rw [ih, List.length_cons]
    omega

/-- Where all tasks have one key, to be asked at all is to be asked for the key. -/
theorem Judge.counts_busyAtFirst (completion : Completion) {tasks : List Task}
    (alike : ∀ t ∈ tasks, ∀ u ∈ tasks, u.key = t.key) :
    (Judge.busyAtFirst completion).Counts
      (fun _ n => { outcome := if n = 0 then .error (.transient "busy") else .ok completion }) tasks 0 := by
  intro before t listed member
  have all : (before.countP fun u => u.key = t.key) = before.length :=
    List.countP_eq_length.mpr fun u asked => decide_eq_true (alike t member u (listed u asked))
  rw [all, Judge.asked_busyAtFirst, Nat.zero_add]
  rfl

theorem Store.forgetful_answersBy : Store.forgetful.AnswersBy (fun _ => .ok none) () := by
  intro keys
  induction keys with
  | nil => rfl
  | cons k rest ih => rw [Store.answers, ih, List.map_cons]; rfl

namespace Reviewer

theorem review_of_perm_of_twins :
    let r : Reviewer Nat Unit :=
      { engine := { judge := .busyAtFirst { text := "\x7b\"violations\": [\x7b\"message\": \"let\"\x7d]\x7d" }
                    store := .forgetful, retry := {} } }
    let files : List SourceFile := [⟨"b.ts", "let a;"⟩, ⟨"a.ts", "let a;"⟩]
    let rules : List Rule := [{ name := "no-let", description := "Use const." }, { name := "later" }]
    let w : World Nat Unit := { judge := 0, store := () }
    ∃ v elapsed w₁ v' elapsed' w₂, r.review files rules w = (.ok (v, elapsed), w₁) ∧
      { r with concurrency := 1 }.review files.reverse rules.reverse w = (.ok (v', elapsed'), w₂) ∧
      v.untimed = v'.untimed := by
  intro r files rules w
  have alike : ∀ t ∈ r.tasks files rules, ∀ u ∈ r.tasks files rules, u.key = t.key := by
    have tasks : r.tasks files rules =
        files.map fun file => { file, rule := { name := "no-let", description := "Use const." }, model := {} } := by rfl
    have same : ∀ file ∈ files, file.content = "let a;" := by decide
    rw [tasks]
    intro t member u member'
    obtain ⟨file, here, rfl⟩ := List.mem_map.mp member
    obtain ⟨file', here', rfl⟩ := List.mem_map.mp member'
    rw [Task.key, Task.key, SourceFile.fingerprint, SourceFile.fingerprint, same file here, same file' here']
  exact review_of_perm r (by rfl) (by decide) (List.reverse_perm files).symm (List.reverse_perm rules).symm (by decide)
    Nat.one_pos (fun _ _ _ => rfl) rfl rfl Store.forgetful_answersBy (Judge.counts_busyAtFirst _ alike)

end Reviewer

end PolicyLint
