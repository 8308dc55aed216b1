import Mathlib.Data.List.Forall2
import PolicyLint.Proofs.Evaluation.Conservation
import PolicyLint.Proofs.Review.Clean
import PolicyLint.Proofs.Review.Preview
import PolicyLint.Proofs.Run.Past
import PolicyLint.Proofs.Verdict.Normal

/-!
# What a review covers

A review is about pairs of a file and a rule, the project counting as a file of its own. It speaks of each pair once:
either it says why the pair could not be judged, or it has the findings of one completion, in their order and next to
each other.
-/

namespace PolicyLint

/-- A rule that says something is due on the file at a path. A rule for the project is due at one path, unless there
are no files. -/
def IsPair (files : List SourceFile) (rules : List Rule) (place : String × String) : Prop :=
  ∃ rule ∈ rules, rule.hasDescription = true ∧ place.2 = rule.name ∧
    (rule.scope = .file ∧ (∃ file ∈ files, place.1 = file.path) ∨ rule.scope = .project ∧ files ≠ [] ∧ place.1 = ".")

/-- What a verdict says of a task: why it could not be judged, or what the completion has found that was reported for
its key. -/
def Verdict.Settles (v : Verdict) (past : PastRun → Prop) (made : List Call) (t : Task) : Prop :=
  (∃ f, withKey Failure.place t.place v.failures = [f]) ∧ withKey Finding.place t.place v.findings = [] ∨
    withKey Failure.place t.place v.failures = [] ∧ ∃ completion, Reported past made t.key completion ∧
      readCompletion completion.text t.file.path t.rule.name = .ok (withKey Finding.place t.place v.findings)

/-- The verdict speaks of each pair once, by the one task that has its place. -/
structure Verdict.Covers (v : Verdict) (files : List SourceFile) (rules : List Rule) (tasks : List Task)
    (past : PastRun → Prop) (made : List Call) : Prop where
  pairs : ∀ place, place ∈ tasks.map Task.place ↔ IsPair files rules place
  once : (tasks.map Task.place).Nodup
  checks : v.checks = files.length * (rules.filter fun rule => rule.scope = .file && rule.hasDescription).length +
    if files.isEmpty then 0 else (rules.filter fun rule => rule.scope = .project && rule.hasDescription).length
  findings : ∀ f ∈ v.findings, IsPair files rules f.place
  failures : ∀ f ∈ v.failures, IsPair files rules f.place
  settled : ∀ t ∈ tasks, v.Settles past made t
  together : ∀ place, StandsAs Finding.place place (withKey Finding.place place v.findings) v.findings
  ascending : SortedBy placeOrder Finding.place v.findings ∧ SortedBy placeOrder Failure.place v.failures

/-! ### Tasks -/

theorem length_ofRules (model : Model) (files : List SourceFile) (rules : List Rule) :
    (Task.ofRules model files (Reviewer.activeRules rules)).length =
      files.length * (rules.filter fun rule => rule.scope = .file && rule.hasDescription).length +
        if files.isEmpty then 0 else (rules.filter fun rule => rule.scope = .project && rule.hasDescription).length := by
  induction rules with
  | nil => simp [Reviewer.activeRules, Task.ofRules]
  | cons rule rest ih =>
    rw [Task.ofRules, Reviewer.activeRules] at ih ⊢
    cases active : rule.hasDescription with
    | false =>
      rw [List.filter_cons_of_neg (by simp [active]), List.filter_cons_of_neg (by simp [active]),
        List.filter_cons_of_neg (by simp [active]), ih]
    | true =>
      rw [List.filter_cons_of_pos active, List.flatMap_cons, List.length_append, ih, Task.ofRule]
      cases scope : rule.scope with
      | file =>
        rw [List.filter_cons_of_pos (by simp [scope, active]), List.filter_cons_of_neg (by simp [scope]), List.length_cons,
          Nat.mul_succ]
        simp only [List.length_map]
        omega
      | project =>
        rw [List.filter_cons_of_neg (by simp [scope]), List.filter_cons_of_pos (by simp [scope, active]), List.length_cons]
        cases none : files.isEmpty with
        | true => simp
        | false =>
          simp only [Bool.false_eq_true, if_false, List.length_singleton]
          omega

theorem mem_places_iff {σ τ : Type} (r : Reviewer σ τ) (files : List SourceFile) (rules : List Rule)
    (place : String × String) : place ∈ (r.tasks files rules).map Task.place ↔ IsPair files rules place := by
  obtain ⟨path, name⟩ := place
  rw [Reviewer.places_tasks, List.mem_flatMap]
  constructor
  · rintro ⟨rule, active, member⟩
    obtain ⟨known, described⟩ := List.mem_filter.mp active
    obtain ⟨path', subject, same⟩ := List.mem_map.mp member
    obtain ⟨rfl, rfl⟩ := Prod.mk.inj same
    obtain ⟨file, here, rfl⟩ := List.mem_map.mp subject
    refine ⟨rule, known, described, rfl, ?_⟩
    unfold Reviewer.subjects at here
    cases scope : rule.scope with
    | file =>
      rw [scope] at here
      exact Or.inl ⟨rfl, file, here, rfl⟩
    | project =>
      rw [scope] at here
      dsimp only at here
      split at here
      · exact absurd here List.not_mem_nil
      · rename_i some
        obtain rfl := List.mem_singleton.mp here
        exact Or.inr ⟨rfl, by simpa using some, rfl⟩
  · rintro ⟨rule, known, described, same, due⟩
    refine ⟨rule, List.mem_filter.mpr ⟨known, described⟩, List.mem_map.mpr ⟨path, ?_, by rw [← same]⟩⟩
    unfold Reviewer.subjects
    rcases due with ⟨scope, file, here, rfl⟩ | ⟨scope, some, rfl⟩
    · rw [scope]
      exact List.mem_map_of_mem here
    · rw [scope]
      dsimp only
      rw [if_neg (by simpa using some)]
      exact List.mem_singleton.mpr rfl

/-! ### Verdicts by place -/

section Places

variable {α κ : Type} {key : α → κ} {ks : List κ} {ls : List (List α)}

theorem key_of_listed (keyed : List.Forall₂ (fun k l => ∀ a ∈ l, key a = k) ks ls) {a : α} (member : a ∈ ls.flatten) :
    key a ∈ ks := by
  induction keyed with
  | nil => exact absurd member List.not_mem_nil
  | cons first _ ih =>
    rcases List.mem_append.mp member with here | later
    · exact first a here ▸ List.mem_cons_self
    · exact List.mem_cons_of_mem _ (ih later)

variable [DecidableEq κ]

theorem withKey_of_unlisted (keyed : List.Forall₂ (fun k l => ∀ a ∈ l, key a = k) ks ls) {k : κ} (absent : k ∉ ks) :
    withKey key k ls.flatten = [] :=
  List.filter_eq_nil_iff.mpr fun _ member same => absent (of_decide_eq_true same ▸ key_of_listed keyed member)

/-- If each list has a key of its own, the members with a key are those of its list. -/
theorem withKey_of_listed (keyed : List.Forall₂ (fun k l => ∀ a ∈ l, key a = k) ks ls) (distinct : ks.Nodup) {i : Nat}
    {k : κ} {l : List α} (here : ks[i]? = some k) (list : ls[i]? = some l) : withKey key k ls.flatten = l := by
  induction keyed generalizing i with
  | nil => exact absurd here (by simp)
  | @cons k' l' ks ls first others ih =>
    rw [List.nodup_cons] at distinct
    rw [List.flatten_cons, withKey, List.filter_append]
    cases i with
    | zero =>
      obtain rfl := Option.some.inj here
      obtain rfl := Option.some.inj list
      have own : l'.filter (fun a => key a = k') = l' := List.filter_eq_self.mpr fun a member => by simpa using first a member
      have none := withKey_of_unlisted others distinct.1
      rw [withKey] at none
      rw [own, none, List.append_nil]
    | succ i =>
      have later : k ∈ ks := List.mem_of_getElem? here
      have none : l'.filter (fun a => key a = k) = [] := by
        refine List.filter_eq_nil_iff.mpr fun a member same => ?_
        exact distinct.1 (((first a member).symm.trans (of_decide_eq_true same)) ▸ later)
      rw [none, List.nil_append]
      exact ih distinct.2 here list

end Places

namespace Engine

variable {σ τ : Type} {e : Engine σ τ} {stopped : Nat → Prop} {tasks : List Task} {w w' : World σ τ}
  {results : Key → Verdict} {verdicts : List Verdict} {past : PastRun → Prop}

theorem Answered.speaks {written : Key → Verdict → Prop} {task : Task} {v : Verdict}
    (answered : e.Answered stopped written task v) : v.SpeaksOf task.file.path task.rule.name := by
  cases answered with
  | served known => exact Verdict.speaksOf_servedTo _ task
  | checked after => exact after.speaksOf
  | shared same after => exact Verdict.speaksOf_sharedWith _ task

/-- A task that does not fail has the findings of a completion that was reported for its key. -/
theorem Ran.reported (ran : e.Ran stopped tasks w w' results verdicts) (holds : e.store.Holds (FiledIn past) w.store) {i : Nat}
    {task : Task} {v : Verdict} (here : tasks[i]? = some task) (verdict : verdicts[i]? = some v)
    (judged : v.failures = []) :
    ∃ completion, Reported past (w'.callsSince w) task.key completion ∧
      readCompletion completion.text task.file.path task.rule.name = .ok v.findings := by
  rcases ran.cases here with ⟨u, served, is⟩ | ⟨first, is⟩ | ⟨_, ⟨j, t, _, same, first⟩, is⟩
  · obtain rfl := Option.some.inj (verdict.symm.trans is)
    obtain ⟨answer, answered, has⟩ := found_getElem? e (t := w.store) here
    obtain ⟨entry, rfl, own, rfl⟩ := Store.verdictFor_eq_some (Option.some.inj (has.symm.trans served))
    have asked : (tasks.map Task.key)[i]? = some task.key := by
      rw [List.getElem?_map, here]
      rfl
    exact reported_of_filedIn (holds _ i task.key entry asked answered own) _ _ _
  · obtain rfl := Option.some.inj (verdict.symm.trans is)
    obtain ⟨call, made, own, completion, brought, read⟩ := ran.accepted first judged
    exact ⟨completion, .now made own brought, read⟩
  · obtain rfl := Option.some.inj (verdict.symm.trans is)
    have clean : (results t.key).failures = [] := by
      rw [same]
      by_cases none : (results task.key).failures = []
      · exact none
      · rw [Verdict.sharedWith_of_failures none] at judged
        exact absurd (List.map_eq_nil_iff.mp judged) none
    obtain ⟨call, made, own, completion, brought, read⟩ := ran.accepted first clean
    refine ⟨completion, .now made (own.trans same) brought, ?_⟩
    rw [same] at clean read
    rw [readCompletion_retarget _ t.file.path t.rule.name, read, Verdict.sharedWith_of_no_failures clean]
    rfl

theorem Ran.placed (ran : e.Ran stopped tasks w w' results verdicts) (holds : e.store.Holds (FiledIn past) w.store) :
    List.Forall₂ (fun place said => ∀ f ∈ said, Finding.place f = place) (tasks.map Task.place)
        (verdicts.map Verdict.findings) ∧
      List.Forall₂ (fun place said => ∀ f ∈ said, Failure.place f = place) (tasks.map Task.place)
        (verdicts.map Verdict.failures) := by
  have speak : List.Forall₂ (fun t v => v.SpeaksOf t.file.path t.rule.name) tasks verdicts := by
    rw [List.forall₂_iff_get]
    exact ⟨ran.length.symm, fun i inside inside' => (ran.answered_of_holds holds (List.getElem?_eq_getElem inside)
      (List.getElem?_eq_getElem inside')).speaks⟩
  simp only [List.forall₂_map_left_iff, List.forall₂_map_right_iff]
  exact ⟨speak.imp fun t v speaks f member => Prod.ext (speaks.1 f member).1 (speaks.1 f member).2,
    speak.imp fun t v speaks f member => Prod.ext (speaks.2 f member).1 (speaks.2 f member).2⟩

/-- What the verdicts of a run come to is settled task by task, if the tasks have different places. -/
theorem Ran.settles (ran : e.Ran stopped tasks w w' results verdicts) (holds : e.store.Holds (FiledIn past) w.store)
    (distinct : (tasks.map Task.place).Nodup) :
    ∀ t ∈ tasks, (Verdict.fold verdicts).normalized.Settles past (w'.callsSince w) t := by
  obtain ⟨findings, failures⟩ := ran.placed holds
  intro t member
  obtain ⟨i, inside, rfl⟩ := List.mem_iff_getElem.mp member
  have here : tasks[i]? = some tasks[i] := List.getElem?_eq_getElem inside
  have inside' : i < verdicts.length := ran.length ▸ inside
  have verdict : verdicts[i]? = some verdicts[i] := List.getElem?_eq_getElem inside'
  have place : (tasks.map Task.place)[i]? = some tasks[i].place := by rw [List.getElem?_map, here, Option.map_some]
  have found : withKey Finding.place tasks[i].place (Verdict.fold verdicts).normalized.findings = verdicts[i].findings := by
    show withKey _ _ ((Verdict.fold verdicts).findings.mergeSort fun a b => placeOrder a.place b.place) = _
    rw [withKey_mergeSort keyOrder_placeOrder, Verdict.findings_fold, List.flatMap_def]
    exact withKey_of_listed findings distinct place (by rw [List.getElem?_map, verdict, Option.map_some])
  have failed : withKey Failure.place tasks[i].place (Verdict.fold verdicts).normalized.failures = verdicts[i].failures := by
    show withKey _ _ ((Verdict.fold verdicts).failures.mergeSort fun a b => placeOrder a.place b.place) = _
    rw [withKey_mergeSort keyOrder_placeOrder, Verdict.failures_fold, List.flatMap_def]
    exact withKey_of_listed failures distinct place (by rw [List.getElem?_map, verdict, Option.map_some])
  have single := (ran.answered_of_holds holds here verdict).single fun u filed => failures_of_filedIn filed
  unfold Verdict.Settles
  rw [found, failed]
  rcases single.outcome with judged | unjudged
  · exact Or.inr ⟨judged, ran.reported holds here verdict judged⟩
  · exact Or.inl unjudged

end Engine

namespace Reviewer

variable {σ τ : Type}

def asRun (r : Reviewer σ τ) (files : List SourceFile) (rules : List Rule) (w : World σ τ) (positive : 0 < r.concurrency) :
    PastRun where
  engine := r.engine
  groups := [r.tasks files rules]
  width := 1
  bound := r.concurrency
  world := w.noteSkipped rules
  wide := Nat.one_pos
  room := positive

theorem hasFiled_of_asRun {r : Reviewer σ τ} {files : List SourceFile} {rules : List Rule} {w : World σ τ}
    {positive : 0 < r.concurrency} {k : Key} {v : Verdict} (filed : FiledIn (· = r.asRun files rules w positive) k v) :
    r.engine.judge.HasFiled r.engine.retry k v := by
  obtain ⟨_, rfl, member⟩ := filed
  exact ⟨τ, r.engine.store, _, _, _, _, Nat.one_pos, positive, member⟩

/-- After a review the store holds what it had before and what the review has filed. -/
theorem review_faithful (r : Reviewer σ τ) (files : List SourceFile) (rules : List Rule) {w : World σ τ}
    {past : PastRun → Prop} (positive : 0 < r.concurrency) (faithful : r.engine.store.Faithful (FiledIn past) w.store) :
    r.engine.store.Faithful (FiledIn fun run => past run ∨ run = r.asRun files rules w positive)
      (r.review files rules w).2.store := by
  rw [review]
  cases validateInputs files rules with
  | error fault =>
    refine faithful.mono fun k v before => ?_
    obtain ⟨run, known, member⟩ := before
    exact ⟨run, Or.inl known, member⟩
  | ok _ =>
    dsimp only
    rw [Engine.run, if_neg (Nat.ne_of_gt positive)]
    dsimp only
    rw [(save_eq r _).2.2]
    have after := (r.asRun files rules w positive).faithful faithful
    exact after.saved

/-- A review of accepted files and rules speaks of each pair of them once, whatever the judge does and whenever the
review is aborted, as long as the store has nothing but what runs of the past have filed. -/
theorem review_covers (r : Reviewer σ τ) {files : List SourceFile} {rules : List Rule} {w : World σ τ}
    {past : PastRun → Prop} (valid : validateInputs files rules = .ok ()) (positive : 0 < r.concurrency)
    (holds : r.engine.store.Holds (FiledIn past) w.store) :
    ∃ v elapsed w' made, r.review files rules w = (.ok (v, elapsed), w') ∧ w'.calls = w.calls ++ made ∧
      v.Covers files rules (r.tasks files rules) past made := by
  obtain ⟨verdicts, elapsed, w', results, ended, ran, _⟩ :=
    Engine.run_ran r.engine (r.tasks files rules) (w := w.noteSkipped rules) positive (Engine.stops_always _)
  obtain ⟨findings, failures⟩ := ran.placed holds
  refine ⟨_, elapsed, _, w'.callsSince (w.noteSkipped rules), review_of_valid valid ended, ?_, ?_⟩
  · rw [(save_eq r w').1]
    exact ran.calls
  · exact {
      pairs := mem_places_iff r files rules
      once := r.nodup_places valid
      checks := by
        have checks : (Verdict.fold verdicts).normalized.checks = verdicts.length := ran.checks
        rw [checks, ran.length]
        exact length_ofRules r.model files rules
      findings := by
        intro f said
        have member := List.mem_mergeSort.mp said
        rw [Verdict.findings_fold, List.flatMap_def] at member
        exact (mem_places_iff r files rules f.place).mp (key_of_listed findings member)
      failures := by
        intro f said
        have member := List.mem_mergeSort.mp said
        rw [Verdict.failures_fold, List.flatMap_def] at member
        exact (mem_places_iff r files rules f.place).mp (key_of_listed failures member)
      settled := ran.settles holds (r.nodup_places valid)
      together := fun place => standsAs_of_sorted keyOrder_placeOrder (sortedBy_mergeSort keyOrder_placeOrder _ _) place
      ascending := ⟨sortedBy_mergeSort keyOrder_placeOrder _ _, sortedBy_mergeSort keyOrder_placeOrder _ _⟩ }

/-- A review over what another one has stored, with two findings for each pair. -/
theorem review_covers_of_rerun :
    let text := "\x7b\"violations\": [\x7b\"message\": \"one\"\x7d, \x7b\"message\": \"two\"\x7d]\x7d"
    let r : Reviewer Unit (Manager × CacheDir) :=
      { engine := { judge := .constant { outcome := .ok { text } }, store := .ofManager 0, retry := {} } }
    let files : List SourceFile := [⟨"a.ts", "x"⟩, ⟨"b.ts", "x"⟩]
    let rules : List Rule :=
      [{ name := "whole", description := "All.", scope := .project }, { name := "no-let", description := "Use const." }]
    let w : World Unit (Manager × CacheDir) := { judge := (), store := ({}, {}) }
    let filled := (r.review files rules w).2.store
    ∃ v elapsed w' made, r.review files rules { judge := (), store := filled } = (.ok (v, elapsed), w') ∧
      v.Covers files rules (r.tasks files rules) (· = r.asRun files rules w (by decide)) made ∧
      v.findings = [(".", "whole"), ("a.ts", "no-let"), ("b.ts", "no-let")].flatMap fun place =>
        [{ path := place.1, rule := place.2, message := "one" }, { path := place.1, rule := place.2, message := "two" }] := by
  intro text r files rules w filled
  have valid : validateInputs files rules = .ok () := by rfl
  have empty : r.engine.store.Faithful (FiledIn fun _ => False) w.store :=
    Store.ofManager_faithful fun _ p member => absurd member (by simp [w])
  have holds := (review_faithful r files rules (by decide) empty).holds
  simp only [false_or] at holds
  -- What the first review leaves is named, so that nothing computes it.
  obtain ⟨left, same, filed⟩ : ∃ left, filled = left ∧
      r.engine.store.Holds (FiledIn (· = r.asRun files rules w (by decide))) left := ⟨filled, rfl, holds⟩
  rw [same]
  obtain ⟨v, elapsed, w', made, reviewed, _, covers⟩ :=
    review_covers r (w := { judge := (), store := left }) valid (by decide) filed
  have hasFiled : r.engine.store.Holds (r.engine.judge.HasFiled r.engine.retry) left := by
    intro keys i k entry asked answered own
    exact hasFiled_of_asRun (filed keys i k entry asked answered own)
  obtain ⟨v', _, _, reviewed', like, _⟩ := r.review_judgments (w := { judge := (), store := left }) valid (by decide)
    (constant_byKey _) (fun _ _ _ => rfl) rfl rfl hasFiled ()
  obtain ⟨rfl, _⟩ := Prod.mk.inj (Except.ok.inj (Prod.mk.inj (reviewed'.symm.trans reviewed)).1)
  refine ⟨v', elapsed, w', made, reviewed, covers, like.trans ?_⟩
  have listed : (Verdict.fold ((r.tasks files rules).map (r.engine.judgment ()))).findings =
      [(".", "whole"), ("a.ts", "no-let"), ("b.ts", "no-let")].flatMap fun place =>
        [{ path := place.1, rule := place.2, message := "one" }, { path := place.1, rule := place.2, message := "two" }] := by
    decide +kernel
  rw [Verdict.normalized]
  dsimp only
  rw [listed]
  exact List.mergeSort_of_pairwise (by decide +kernel)

end Reviewer

end PolicyLint
