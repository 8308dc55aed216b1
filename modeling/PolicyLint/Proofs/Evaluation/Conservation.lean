import PolicyLint.Outcome
import PolicyLint.Proofs.Cache.Manager
import PolicyLint.Proofs.Evaluation.Trials
import PolicyLint.Proofs.Review.Input
import PolicyLint.Proofs.Run.Keyed
import PolicyLint.Proofs.Sorting

/-!
# The accounts of an evaluation

Fixtures are counted twice: one by one as they are compared with their labels, and once more where their
verdicts are put together. `evaluate_accounts` says that both come to the same, whatever the judge does,
whenever the evaluation is aborted and whatever runs have stored before.
-/

namespace PolicyLint

def Filed (k : Key) (v : Verdict) : Prop := ∃ (σ : Type) (judge : Judge σ) (retry : Retry), judge.HasFiled retry k v

theorem failures_of_filed {k : Key} {v : Verdict} (filed : Filed k v) : v.failures = [] := by
  obtain ⟨σ, judge, retry, υ, store, groups, width, bound, w, wide, room, member⟩ := filed
  obtain ⟨time, sourced⟩ := Engine.runGroups_sourced { judge, store, retry } groups wide room (Engine.stops_always w)
  obtain ⟨_, _, _, _, judged⟩ := sourced.files _ member
  exact judged

/-! ### Verdicts of single tasks -/

/-- A verdict counts one check, which was judged or has the only failure. -/
structure Verdict.Single (v : Verdict) : Prop where
  checks : v.checks = 1
  outcome : v.failures = [] ∨ (∃ f, v.failures = [f]) ∧ v.findings = []

theorem Engine.Answered.single {σ τ : Type} {e : Engine σ τ} {stopped : Nat → Prop} {written : Key → Verdict → Prop}
    {task : Task} {v : Verdict} (answered : e.Answered stopped written task v)
    (judged : ∀ u, written task.key u → u.failures = []) : v.Single := by
  cases answered with
  | @served u known =>
    refine ⟨(u.free_servedTo task).checks, Or.inl ?_⟩
    have none : u.failures = [] := by
      rcases known with before | ⟨_, _, _, _, judged'⟩
      · exact judged u before
      · exact judged'
    exact List.map_eq_nil_iff.mpr none
  | checked after =>
    refine ⟨after.bills.checks, ?_⟩
    rcases after.judged_or_failed with ⟨kind, why, failures, findings⟩ | ⟨failures, _⟩
    · exact Or.inr ⟨⟨_, failures⟩, findings⟩
    · exact Or.inl failures
  | @shared u calls t same after =>
    refine ⟨(u.free_sharedWith task).checks, ?_⟩
    rcases after.judged_or_failed with ⟨kind, why, failures, _⟩ | ⟨failures, _⟩
    · rw [Verdict.sharedWith_of_failures (by simp [failures]), failures]
      exact Or.inr ⟨⟨_, rfl⟩, rfl⟩
    · rw [Verdict.sharedWith_of_no_failures failures]
      exact Or.inl (List.map_eq_nil_iff.mpr failures)

theorem Trial.score_single {t : Trial} (single : t.verdict.Single) :
    t.score.files = t.verdict.checks ∧ t.score.failures = t.verdict.failures.length ∧
      t.score.truePositives + t.score.falsePositives = if !t.verdict.findings.isEmpty then 1 else 0 := by
  have files : t.score.files = 1 := (Score.ofVerdict_one t.label t.verdict).2.1
  refine ⟨files.trans single.checks.symm, ?_⟩
  rw [Trial.score, Score.failures_ofVerdict, Score.positives_ofVerdict, Verdict.hasFailures, Verdict.isClean]
  rcases single.outcome with none | ⟨⟨f, one⟩, none⟩
  · rw [none]
    refine ⟨rfl, ?_⟩
    cases t.verdict.findings.isEmpty <;> rfl
  · rw [one, none]
    exact ⟨rfl, rfl⟩

/-! ### Counts over all trials -/

def Fixtures.included (s : Fixtures) : Selection → Nat
  | .all => s.correct.length + s.incorrect.length
  | .correctOnly => s.correct.length
  | .incorrectOnly => s.incorrect.length

theorem Fixtures.length_labeled (s : Fixtures) (selection : Selection) :
    (s.labeled selection).length = s.included selection := by
  rw [labeled_eq]
  cases selection with
  | all => simp only [included, List.length_append, List.length_map]
  | correctOnly => simp only [included, List.length_map]
  | incorrectOnly => simp only [included, List.length_map]

namespace Trial

variable {count : Score → Nat}

theorem count_scoreOf (adds : Score.Adds count) (trials : List Trial) :
    count (scoreOf trials) = total (fun t => count t.score) trials + count { rules := 1 } := by
  rw [scoreOf, adds.merge, adds.fold, total_map]

/-- What is reported of the trials of one rule. -/
theorem scoreOf_one (trials : List Trial) :
    (scoreOf trials).rules = 1 ∧ (scoreOf trials).files = trials.length ∧ (scoreOf trials).Balanced := by
  refine ⟨?_, ?_, ?_⟩
  · rw [count_scoreOf Score.adds_rules, total_eq_zero fun t _ => (Score.ofVerdict_one t.label t.verdict).1, Nat.zero_add]
  · rw [count_scoreOf Score.adds_files, total_congr fun t _ => (Score.ofVerdict_one t.label t.verdict).2.1, total_one,
      Nat.add_zero]
  · refine Score.Balanced.merge (Score.balanced_fold fun s member => ?_) rfl
    obtain ⟨t, _, rfl⟩ := List.mem_map.mp member
    exact (Score.ofVerdict_one t.label t.verdict).2.2

end Trial

namespace Evaluation

variable {byRule : List (Rule × List Trial)} {count : Score → Nat}

theorem count_ofTrials (adds : Score.Adds count) (rule : count { rules := 1 } = 0) :
    count (ofTrials byRule).total = PolicyLint.total (fun t : Trial => count t.score) (byRule.flatMap Prod.snd) := by
  have each : ∀ x ∈ byRule, count (Trial.scoreOf x.2) = PolicyLint.total (fun t : Trial => count t.score) x.2 := by
    intro x _
    rw [Trial.count_scoreOf adds, rule, Nat.add_zero]
  rw [ofTrials, adds.fold, total_map, total_congr each, total_flatMap]

/-- Trials are counted alike one by one and in the verdict that they make together. -/
theorem count_verdict (of : Verdict → Nat) (adds : Score.Adds count) (rule : count { rules := 1 } = 0)
    (merges : ∀ a b, of (Verdict.merge a b) = of a + of b) (none : of {} = 0) (sorts : ∀ v, of v.normalized = of v)
    (same : ∀ t ∈ byRule.flatMap Prod.snd, count t.score = of t.verdict) :
    count (ofTrials byRule).total = of (ofTrials byRule).verdict := by
  rw [count_ofTrials adds rule, ofTrials, sorts, Verdict.count_fold _ of merges none, total_map]
  exact total_congr same

theorem perm_rules (byRule : List (Rule × List Trial)) :
    (ofTrials byRule).rules.Perm (byRule.map fun x => (x.1.name, Trial.scoreOf x.2)) :=
  List.mergeSort_perm _ _

theorem keyOrder_names : KeyOrder fun a b : String => decide (a ≤ b) where
  trans a b c first second := decide_eq_true (String.le_trans (of_decide_eq_true first) (of_decide_eq_true second))
  total a b := by
    rw [Bool.or_eq_true, decide_eq_true_eq, decide_eq_true_eq]
    exact String.le_total a b
  antisymm a b first second := String.le_antisymm (of_decide_eq_true first) (of_decide_eq_true second)

theorem ascending_rules (distinct : (byRule.map fun x => x.1.name).Nodup) :
    ((ofTrials byRule).rules.map Prod.fst).Pairwise (· < ·) := by
  have listed : ((ofTrials byRule).rules.map Prod.fst).Perm (byRule.map fun x => x.1.name) := by
    have mapped := (perm_rules byRule).map Prod.fst
    rwa [List.map_map] at mapped
  have sorted : SortedBy (fun a b : String => decide (a ≤ b)) Prod.fst (ofTrials byRule).rules :=
    sortedBy_mergeSort keyOrder_names Prod.fst _
  have climbing : ((ofTrials byRule).rules.map Prod.fst).Pairwise fun a b => decide (a ≤ b) = true :=
    List.pairwise_map.mpr sorted
  refine (climbing.and (listed.nodup_iff.mpr distinct)).imp ?_
  rintro a b ⟨le, different⟩
  rcases Classical.em (a < b) with less | not
  · exact less
  · exact absurd (String.le_antisymm (of_decide_eq_true le) (String.not_lt.mp not)) different

/-- The accounts of an evaluation of rules, whose trials are these. -/
structure Accounts (ev : Evaluation) (plan : EvaluationPlan) (rules : List Rule) (fixturesOf : String → Fixtures)
    (byRule : List (Rule × List Trial)) : Prop where
  /-- The trials are the included fixtures of the rules for files that have a description. -/
  trials : byRule.map Prod.fst = evaluable rules ∧
    ∀ x ∈ byRule, x.2.map Trial.fixture = (fixturesOf x.1.name).labeled plan.selection
  verdict : ev.verdict = (Verdict.fold ((byRule.flatMap Prod.snd).map Trial.verdict)).normalized
  /-- Each of these rules has one entry. -/
  entries : (ev.rules.map Prod.fst).Perm ((evaluable rules).map Rule.name)
  ascending : (ev.rules.map Prod.fst).Pairwise (· < ·)
  scores : ∀ x ∈ ev.rules, x.2.rules = 1 ∧ x.2.files = (fixturesOf x.1).included plan.selection ∧
    x.2.files = x.2.truePositives + x.2.falsePositives + x.2.trueNegatives + x.2.falseNegatives + x.2.failures
  sum : ev.total =
    { rules := PolicyLint.total (·.2.rules) ev.rules
      files := PolicyLint.total (·.2.files) ev.rules
      truePositives := PolicyLint.total (·.2.truePositives) ev.rules
      falsePositives := PolicyLint.total (·.2.falsePositives) ev.rules
      trueNegatives := PolicyLint.total (·.2.trueNegatives) ev.rules
      falseNegatives := PolicyLint.total (·.2.falseNegatives) ev.rules
      failures := PolicyLint.total (·.2.failures) ev.rules }
  rules : ev.total.rules = ev.rules.length
  files : ev.total.files = ev.verdict.checks
  failures : ev.total.failures = ev.verdict.failures.length
  /-- As many positives as trials in which something was found. -/
  positives : ev.total.truePositives + ev.total.falsePositives =
    ((byRule.flatMap Prod.snd).filter fun t => !t.verdict.findings.isEmpty).length
  clean : Outcome.ofEvaluation ev = .clean ↔ ∀ x ∈ byRule, ∀ t ∈ x.2, t.Right

theorem outcome_clean {ev : Evaluation} : Outcome.ofEvaluation ev = .clean ↔
    ev.total.failures + (ev.total.falsePositives + ev.total.falseNegatives) = 0 := by
  rw [Outcome.ofEvaluation, hasFailures, hasMisjudged]
  by_cases failed : 0 < ev.total.failures
  · rw [if_pos (decide_eq_true failed)]
    exact ⟨fun h => absurd h (by decide), fun h => absurd failed (by omega)⟩
  · rw [if_neg (by simpa using failed)]
    by_cases misjudged : 0 < ev.total.falsePositives + ev.total.falseNegatives
    · rw [if_pos (decide_eq_true misjudged)]
      exact ⟨fun h => absurd h (by decide), fun h => absurd misjudged (by omega)⟩
    · rw [if_neg (by simpa using misjudged)]
      exact ⟨fun _ => by omega, fun _ => rfl⟩

theorem accounts_ofTrials {plan : EvaluationPlan} {rules : List Rule} {fixturesOf : String → Fixtures}
    (distinct : (rules.map Rule.name).Nodup) (rulesOf : byRule.map Prod.fst = evaluable rules)
    (fixtures : ∀ x ∈ byRule, x.2.map Trial.fixture = (fixturesOf x.1.name).labeled plan.selection)
    (single : ∀ x ∈ byRule, ∀ t ∈ x.2, t.verdict.Single) :
    (ofTrials byRule).Accounts plan rules fixturesOf byRule := by
  have names : (byRule.map fun x => x.1.name) = (evaluable rules).map Rule.name := by
    rw [← rulesOf, List.map_map]
    rfl
  have fresh : (byRule.map fun x => x.1.name).Nodup := by
    rw [names]
    exact distinct.sublist (List.filter_sublist.map _)
  have single' : ∀ t ∈ byRule.flatMap Prod.snd, t.verdict.Single := by
    intro t member
    obtain ⟨x, known, there⟩ := List.mem_flatMap.mp member
    exact single x known t there
  have sum : (ofTrials byRule).total = Score.fold ((ofTrials byRule).rules.map Prod.snd) := by
    have mapped := (perm_rules byRule).map Prod.snd
    rw [List.map_map] at mapped
    exact Score.fold_perm mapped.symm
  refine ⟨⟨rulesOf, fixtures⟩, rfl, ?_, ascending_rules fresh, ?_, ?_, ?_, ?_, ?_, ?_, ?_⟩
  · have mapped := (perm_rules byRule).map Prod.fst
    rw [List.map_map] at mapped
    rwa [← names]
  · intro entry member
    obtain ⟨x, known, rfl⟩ := List.mem_map.mp ((perm_rules byRule).mem_iff.mp member)
    obtain ⟨one, files, balanced⟩ := Trial.scoreOf_one x.2
    refine ⟨one, ?_, balanced⟩
    rw [files, ← Fixtures.length_labeled, ← fixtures x known, List.length_map]
  · rw [sum, Score.fold_eq]
    simp only [total_map]
  · have one : ∀ entry ∈ (ofTrials byRule).rules, entry.2.rules = 1 := by
      intro entry member
      obtain ⟨x, known, rfl⟩ := List.mem_map.mp ((perm_rules byRule).mem_iff.mp member)
      exact (Trial.scoreOf_one x.2).1
    rw [sum, Score.adds_rules.fold, total_map, total_congr one, total_one]
  · refine count_verdict Verdict.checks Score.adds_files rfl (fun _ _ => rfl) rfl (fun _ => rfl) fun t member => ?_
    exact (Trial.score_single (single' t member)).1
  · refine count_verdict (fun v => v.failures.length) Score.adds_failures rfl (fun _ _ => List.length_append) rfl
      (fun v => List.length_mergeSort _) fun t member => ?_
    exact (Trial.score_single (single' t member)).2.1
  · rw [count_ofTrials (Score.adds_truePositives.add Score.adds_falsePositives) rfl,
      total_congr fun t member => (Trial.score_single (single' t member)).2.2]
    exact total_indicator _ _
  · have adds := Score.adds_failures.add (Score.adds_falsePositives.add Score.adds_falseNegatives)
    rw [outcome_clean, count_ofTrials adds rfl, total_eq_zero_iff]
    constructor
    · intro none x known t there
      exact (Score.ofVerdict_right t.label t.verdict).mp (none t (List.mem_flatMap.mpr ⟨x, known, there⟩))
    · intro right t member
      obtain ⟨x, known, there⟩ := List.mem_flatMap.mp member
      exact (Score.ofVerdict_right t.label t.verdict).mpr (right x known t there)

end Evaluation

namespace Reviewer

variable {σ τ : Type} {r : Reviewer σ τ} {plan : EvaluationPlan} {rules : List Rule} {fixturesOf : String → Fixtures}
  {w : World σ τ}

/-- A store that holds nothing but what runs have filed still does after an evaluation. -/
theorem evaluate_faithful (faithful : r.engine.store.Faithful Filed w.store) :
    r.engine.store.Faithful Filed (r.evaluate plan rules fixturesOf w).2.store := by
  rcases r.evaluate_cases plan rules fixturesOf w with ⟨fault, refused⟩ | ⟨_, wide, room, noted, notices, ev, ended, _⟩
  · rw [refused]
    exact faithful
  · obtain ⟨time, sourced⟩ := r.engine.runGroups_sourced (r.groupsOf plan rules fixturesOf) wide room
      (Engine.stops_always { w with notices := noted })
    obtain ⟨made, store, filed⟩ := sourced.store
    rw [ended, (save_eq r _).2.2]
    have used : (r.engine.store.flush (r.groupsRun plan rules fixturesOf { w with notices := noted }).2.store).2 =
        r.engine.store.uses (made ++ [.save]) w.store := by
      rw [Store.uses_append, ← store]
      rfl
    dsimp only
    rw [used]
    refine (faithful.later (made ++ [.save])).mono fun k v known => ?_
    rcases known with before | since
    · exact before
    · rw [List.flatMap_append, filed] at since
      have mine : (k, v) ∈ (r.groupsRun plan rules fixturesOf { w with notices := noted }).2.filedSince
          { w with notices := noted } := by
        rcases List.mem_append.mp since with filed | none
        · exact filed
        · exact absurd none (by simp [StoreUse.filed])
      exact ⟨σ, r.engine.judge, r.engine.retry, τ, r.engine.store, _, _, _, _, wide, room, mine⟩

/-- The accounts of every evaluation agree. The judge may do anything and the run may be aborted at any time, as
long as the store never held anything but what runs had filed. -/
theorem evaluate_accounts (accepted : validateRules rules = .ok ()) (wide : 0 < plan.rulesAtOnce)
    (room : 0 < plan.filesAtOnce) (faithful : r.engine.store.Faithful Filed w.store) :
    ∃ ev elapsed w', r.evaluate plan rules fixturesOf w = (.ok (ev, elapsed), w') ∧
      ev.Accounts plan rules fixturesOf (r.trials plan rules fixturesOf w) := by
  obtain ⟨notices, evaluated⟩ := evaluate_of_accepted r fixturesOf accepted wide room w
  refine ⟨_, _, _, evaluated, ?_⟩
  obtain ⟨_, answered⟩ := trials_answered (w := w)
    (r.engine.runGroups_answered (r.groupsOf plan rules fixturesOf) wide room (Engine.stops_always _) faithful)
  refine Evaluation.accounts_ofTrials (names_of_validateRules accepted) (map_fst_trials w)
    (fun x known => (answered x known).2.1) fun x known t there => ?_
  exact ((answered x known).2.2 t there).single fun u filed => failures_of_filed filed

/-- The evaluation is the second one, over what the first one has stored. -/
theorem evaluate_accounts_of_rerun :
    let r : Reviewer Unit (Manager × CacheDir) :=
      { engine := { judge := .constant { outcome := .ok { text := "\x7b\"violations\": []\x7d" } }
                    store := .ofManager 0, retry := {} } }
    let rules : List Rule :=
      [{ name := "no-let", description := "Use const." }, { name := "whole", description := "All.", scope := .project }]
    let fixturesOf : String → Fixtures := fun _ => { correct := [⟨"a.ts", "x"⟩], incorrect := [⟨"b.ts", "x"⟩] }
    ∃ w, w = (r.evaluate {} rules fixturesOf { judge := (), store := ({}, {}) }).2 ∧
      validateRules rules = .ok () ∧ r.engine.store.Faithful Filed w.store ∧
      ∃ ev elapsed w', r.evaluate {} rules fixturesOf w = (.ok (ev, elapsed), w') ∧
        ev.Accounts {} rules fixturesOf (r.trials {} rules fixturesOf w) := by
  intro r rules fixturesOf
  have accepted : validateRules rules = .ok () := by rfl
  have empty : r.engine.store.Faithful Filed (({}, {}) : Manager × CacheDir) :=
    Store.ofManager_faithful fun _ p member => absurd member (by simp)
  refine ⟨_, rfl, accepted, evaluate_faithful empty, ?_⟩
  exact evaluate_accounts accepted (by decide) (by decide) (evaluate_faithful empty)

end Reviewer

end PolicyLint
