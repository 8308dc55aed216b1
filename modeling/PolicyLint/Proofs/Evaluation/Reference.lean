import PolicyLint.Proofs.Cache.Manager
import PolicyLint.Proofs.Evaluation.Trials
import PolicyLint.Proofs.Review.Reference

/-!
# Evaluations and their reference

The reference of an evaluation judges every fixture by itself, without a store. An evaluation whose judge
keeps to keys reports the same, by `evaluate_reference`: rules that are evaluated at once and fixtures with the
same contents, even under opposite labels, leave no trace in each other's scores.
-/

namespace PolicyLint

/-- A label holds the same against verdicts that say the same. -/
theorem Score.ofVerdict_congr {v u : Verdict} (like : Engine.SaysLike v u) (label : Label) :
    ofVerdict label v = ofVerdict label u := by
  have failed : v.hasFailures = u.hasFailures := by rw [Verdict.hasFailures, Verdict.hasFailures, like.2]
  have clean : v.isClean = u.isClean := by rw [Verdict.isClean, Verdict.isClean, like.1]
  simp only [ofVerdict, failed, clean]

structure Evaluation.ReportsLike (ev other : Evaluation) : Prop where
  rules : ev.rules = other.rules
  total : ev.total = other.total
  findings : ev.verdict.findings = other.verdict.findings
  failures : ev.verdict.failures = other.verdict.failures

/-- Nothing aborts the world, and its manager has nothing to give out. -/
structure World.Bare {σ : Type} (w : World σ (Manager × CacheDir)) : Prop where
  going : w.aborted = false
  unlimited : w.abortAt = none
  store : w.store.1.enabled = false ∨ w.store.1.entries = {}

namespace Reviewer

variable {σ τ : Type}

/-! ### The reference -/

def scoreAlone (r : Reviewer σ τ) (s : σ) (selection : Selection) (fixturesOf : String → Fixtures) (rule : Rule) : Score :=
  (Score.fold (((fixturesOf rule.name).labeled selection).map fun f =>
    Score.ofVerdict f.1 (r.alone s rule f.2))).merge { rules := 1 }

def verdictsAlone (r : Reviewer σ τ) (s : σ) (selection : Selection) (rules : List Rule) (fixturesOf : String → Fixtures) :
    List Verdict :=
  (Evaluation.evaluable rules).flatMap fun rule =>
    ((fixturesOf rule.name).labeled selection).map fun f => r.alone s rule f.2

/-- What an evaluation comes to when each of its fixtures is judged alone. -/
def evaluationAlone (r : Reviewer σ τ) (s : σ) (selection : Selection) (rules : List Rule)
    (fixturesOf : String → Fixtures) : Evaluation where
  rules := ((Evaluation.evaluable rules).map fun rule =>
    (rule.name, r.scoreAlone s selection fixturesOf rule)).mergeSort fun a b => decide (a.1 ≤ b.1)
  total := Score.fold ((Evaluation.evaluable rules).map (r.scoreAlone s selection fixturesOf))
  verdict := (Verdict.fold (r.verdictsAlone s selection rules fixturesOf)).normalized

/-- The fixtures of both labels together, the rule being counted once. -/
theorem scoreAlone_all (r : Reviewer σ τ) (s : σ) (fixturesOf : String → Fixtures) (rule : Rule) :
    r.scoreAlone s .all fixturesOf rule =
      { (r.scoreAlone s .correctOnly fixturesOf rule).merge (r.scoreAlone s .incorrectOnly fixturesOf rule) with
        rules := 1 } := by
  have none : ∀ fixtures : List (Label × SourceFile),
      (Score.fold (fixtures.map fun f => Score.ofVerdict f.1 (r.alone s rule f.2))).rules = 0 := by
    intro fixtures
    rw [Score.adds_rules.fold, total_map]
    exact total_eq_zero fun f _ => (Score.ofVerdict_one _ _).1
  rw [scoreAlone, scoreAlone, scoreAlone, Fixtures.labeled_eq, Fixtures.labeled_eq, Fixtures.labeled_eq, List.map_append,
    Score.fold_append]
  simp only [Score.merge, none, Nat.add_zero, Nat.zero_add]

/-- The score of a rule comes from what the judge makes of its fixtures. -/
theorem scoreAlone_judgment (r : Reviewer σ τ) (byKey : r.engine.judge.ByKey) (calm : r.engine.judge.Calm) (s : σ)
    (selection : Selection) (fixturesOf : String → Fixtures) (rule : Rule) :
    r.scoreAlone s selection fixturesOf rule =
      (Score.fold (((fixturesOf rule.name).labeled selection).map fun f =>
        Score.ofVerdict f.1 (r.engine.judgment s { file := f.2, rule, model := r.model }))).merge { rules := 1 } := by
  have each : ∀ f : Label × SourceFile, Score.ofVerdict f.1 (r.alone s rule f.2) =
      Score.ofVerdict f.1 (r.engine.judgment s { file := f.2, rule, model := r.model }) := fun f =>
    Score.ofVerdict_congr (r.alone_judgment byKey calm s (t := { file := f.2, rule, model := r.model }) rfl) f.1
  simp only [scoreAlone, each]

/-! ### Trials -/

/-- The verdicts of the trials say what the fixtures come to alone. -/
def TriedAlone (r : Reviewer σ τ) (s : σ) (byRule : List (Rule × List Trial)) : Prop :=
  ∀ x ∈ byRule, ∀ t ∈ x.2, Engine.SaysLike t.verdict (r.alone s x.1 t.file)

theorem triedAlone_trials (r : Reviewer σ τ) {plan : EvaluationPlan} (rules : List Rule) (fixturesOf : String → Fixtures)
    {w : World σ τ} (wide : 0 < plan.rulesAtOnce) (room : 0 < plan.filesAtOnce) (byKey : r.engine.judge.ByKey)
    (calm : r.engine.judge.Calm) (going : w.aborted = false) (unlimited : w.abortAt = none)
    (faithful : r.engine.store.Faithful (fun _ _ => False) w.store) (s : σ) :
    r.TriedAlone s (r.trials plan rules fixturesOf w) ∧ ∀ x ∈ r.trials plan rules fixturesOf w,
      x.2.map Trial.fixture = (fixturesOf x.1.name).labeled plan.selection := by
  have stops : r.engine.Stops (fun _ => False) (w.noteUnevaluated rules) := Engine.stops_never calm going unlimited
  obtain ⟨_, answered⟩ := trials_answered (w := w)
    (r.engine.runGroups_answered (r.groupsOf plan rules fixturesOf) wide room stops faithful)
  refine ⟨fun x known t there => ?_, fun x known => (answered x known).2.1⟩
  have judged := ((answered x known).2.2 t there).judgment (fun _ stop => stop) byKey s fun _ none => none.elim
  have single := r.alone_judgment byKey calm s (t := { file := t.file, rule := x.1, model := r.model }) rfl
  exact ⟨judged.1.trans single.1.symm, judged.2.trans single.2.symm⟩

section Tried

variable {r : Reviewer σ τ} {s : σ} {selection : Selection} {rules : List Rule} {fixturesOf : String → Fixtures}
  {byRule : List (Rule × List Trial)} (tried : r.TriedAlone s byRule)
  (fixtures : ∀ x ∈ byRule, x.2.map Trial.fixture = (fixturesOf x.1.name).labeled selection)

include tried fixtures

theorem TriedAlone.scoreOf {x : Rule × List Trial} (known : x ∈ byRule) :
    Trial.scoreOf x.2 = r.scoreAlone s selection fixturesOf x.1 := by
  rw [Trial.scoreOf, scoreAlone, ← fixtures x known, List.map_map]
  have same : x.2.map Trial.score =
      x.2.map ((fun f => Score.ofVerdict f.1 (r.alone s x.1 f.2)) ∘ Trial.fixture) :=
    List.map_congr_left fun t there => Score.ofVerdict_congr (tried x known t there) t.label
  rw [same]

theorem TriedAlone.verdicts {α : Type} {of : Verdict → α} (respects : ∀ v u, Engine.SaysLike v u → of v = of u)
    (rulesOf : byRule.map Prod.fst = Evaluation.evaluable rules) :
    ((byRule.flatMap Prod.snd).map Trial.verdict).map of = (r.verdictsAlone s selection rules fixturesOf).map of := by
  have each : ∀ x ∈ byRule, (x.2.map Trial.verdict).map of =
      (((fixturesOf x.1.name).labeled selection).map fun f => r.alone s x.1 f.2).map of := by
    intro x known
    rw [← fixtures x known, List.map_map, List.map_map, List.map_map]
    exact List.map_congr_left fun t there => respects _ _ (tried x known t there)
  rw [verdictsAlone, ← rulesOf, List.flatMap_map, List.map_flatMap, List.map_flatMap, List.map_flatMap]
  exact List.flatMap_congr each

/-- What is reported of such trials. -/
theorem TriedAlone.reportsLike (rulesOf : byRule.map Prod.fst = Evaluation.evaluable rules) :
    (Evaluation.ofTrials byRule).ReportsLike (r.evaluationAlone s selection rules fixturesOf) := by
  have scores : byRule.map (fun x => Trial.scoreOf x.2) =
      (Evaluation.evaluable rules).map (r.scoreAlone s selection fixturesOf) := by
    rw [← rulesOf, List.map_map]
    exact List.map_congr_left fun x known => tried.scoreOf fixtures known
  have named : byRule.map (fun x => (x.1.name, Trial.scoreOf x.2)) =
      (Evaluation.evaluable rules).map fun rule => (rule.name, r.scoreAlone s selection fixturesOf rule) := by
    rw [← rulesOf, List.map_map]
    exact List.map_congr_left fun x known => congrArg (x.1.name, ·) (tried.scoreOf fixtures known)
  obtain ⟨findings, failures⟩ := report_congr
    (tried.verdicts fixtures (fun _ _ (like : Engine.SaysLike _ _) => like.1) rulesOf)
    (tried.verdicts fixtures (fun _ _ (like : Engine.SaysLike _ _) => like.2) rulesOf)
  refine ⟨?_, ?_, findings, failures⟩
  · rw [Evaluation.ofTrials, evaluationAlone, named]
  · rw [Evaluation.ofTrials, evaluationAlone, scores]

end Tried

/-! ### Whole evaluations -/

theorem faithful_of_bare {now : Nat} {w : World σ (Manager × CacheDir)} (bare : w.Bare) :
    (Store.ofManager now).Faithful (fun _ _ => False) w.store := by
  refine Store.ofManager_faithful fun works p member => ?_
  rcases bare.store with off | empty
  · exact absurd (works.symm.trans off) (by decide)
  · rw [empty] at member
    exact absurd member List.not_mem_nil

/-- The entries of all fixtures are those of both labels merged, the rule being counted once. -/
theorem evaluationAlone_all (r : Reviewer σ τ) (s : σ) (rules : List Rule) (fixturesOf : String → Fixtures) :
    ∀ x ∈ (r.evaluationAlone s .all rules fixturesOf).rules,
      ∃ c ∈ (r.evaluationAlone s .correctOnly rules fixturesOf).rules,
      ∃ i ∈ (r.evaluationAlone s .incorrectOnly rules fixturesOf).rules,
        c.1 = x.1 ∧ i.1 = x.1 ∧ x.2 = { c.2.merge i.2 with rules := 1 } := by
  have listed : ∀ selection, ∀ rule ∈ Evaluation.evaluable rules, (rule.name, r.scoreAlone s selection fixturesOf rule) ∈
      (r.evaluationAlone s selection rules fixturesOf).rules := by
    intro selection rule known
    exact (List.mergeSort_perm _ _).mem_iff.mpr (List.mem_map.mpr ⟨rule, known, rfl⟩)
  intro x member
  obtain ⟨rule, known, rfl⟩ := List.mem_map.mp ((List.mergeSort_perm _ _).mem_iff.mp member)
  exact ⟨_, listed .correctOnly rule known, _, listed .incorrectOnly rule known, rfl, rfl, r.scoreAlone_all s fixturesOf rule⟩

/-- An evaluation over an empty or a disabled manager reports the sum of what its fixtures come to alone, whatever
its bounds are. The judge keeps to keys. -/
theorem evaluate_reference (r : Reviewer σ (Manager × CacheDir)) {now : Nat} (manages : r.engine.store = .ofManager now)
    {rules : List Rule} (accepted : validateRules rules = .ok ()) (fixturesOf : String → Fixtures)
    (byKey : r.engine.judge.ByKey) (calm : r.engine.judge.Calm) (s : σ) :
    (∀ (plan : EvaluationPlan) (w : World σ (Manager × CacheDir)), 0 < plan.rulesAtOnce → 0 < plan.filesAtOnce → w.Bare →
      ∃ ev elapsed w', r.evaluate plan rules fixturesOf w = (.ok (ev, elapsed), w') ∧
        ev.ReportsLike (r.evaluationAlone s plan.selection rules fixturesOf)) ∧
    ∀ x ∈ (r.evaluationAlone s .all rules fixturesOf).rules,
      ∃ c ∈ (r.evaluationAlone s .correctOnly rules fixturesOf).rules,
      ∃ i ∈ (r.evaluationAlone s .incorrectOnly rules fixturesOf).rules,
        c.1 = x.1 ∧ i.1 = x.1 ∧ x.2 = { c.2.merge i.2 with rules := 1 } := by
  refine ⟨fun plan w wide room bare => ?_, r.evaluationAlone_all s rules fixturesOf⟩
  have faithful : r.engine.store.Faithful (fun _ _ => False) w.store := by
    rw [manages]
    exact faithful_of_bare bare
  obtain ⟨notices, evaluated⟩ := evaluate_of_accepted r fixturesOf accepted wide room w
  obtain ⟨tried, fixtures⟩ := triedAlone_trials r rules fixturesOf wide room byKey calm bare.going bare.unlimited faithful s
  exact ⟨_, _, _, evaluated, tried.reportsLike fixtures (map_fst_trials w)⟩

/-- Both fixtures have the same contents, under opposite labels. -/
theorem evaluate_reference_of_twins :
    let r : Reviewer Unit (Manager × CacheDir) :=
      { engine := { judge := .constant { outcome := .ok { text := "\x7b\"violations\": []\x7d" } }
                    store := .ofManager 0, retry := {} } }
    let rules : List Rule :=
      [{ name := "no-let", description := "Use const." }, { name := "no-var", description := "No var." }]
    let fixturesOf : String → Fixtures := fun _ => { correct := [⟨"a.ts", "x"⟩], incorrect := [⟨"b.ts", "x"⟩] }
    let plan : EvaluationPlan := { rulesAtOnce := 2, filesAtOnce := 1 }
    let w : World Unit (Manager × CacheDir) := { judge := (), store := ({}, {}) }
    let score : Score := { rules := 1, files := 2, trueNegatives := 1, falseNegatives := 1 }
    validateRules rules = .ok () ∧ r.engine.judge.ByKey ∧ r.engine.judge.Calm ∧ w.Bare ∧
      ∃ ev elapsed w', r.evaluate plan rules fixturesOf w = (.ok (ev, elapsed), w') ∧
        ev.ReportsLike (r.evaluationAlone () .all rules fixturesOf) ∧
        ev.rules = [("no-let", score), ("no-var", score)] ∧
        ev.total = { rules := 2, files := 4, trueNegatives := 2, falseNegatives := 2 } := by
  intro r rules fixturesOf plan w score
  have accepted : validateRules rules = .ok () := by rfl
  have byKey : r.engine.judge.ByKey := constant_byKey _
  have calm : r.engine.judge.Calm := fun _ _ _ => rfl
  have bare : w.Bare := ⟨rfl, rfl, Or.inr rfl⟩
  obtain ⟨same, _⟩ := evaluate_reference r rfl accepted fixturesOf byKey calm ()
  obtain ⟨ev, elapsed, w', evaluated, like⟩ := same plan w (by decide) (by decide) bare
  have scored : ∀ rule ∈ rules, r.scoreAlone () .all fixturesOf rule = score := by
    intro rule member
    rw [r.scoreAlone_judgment byKey calm () .all fixturesOf rule]
    rcases List.mem_cons.mp member with rfl | last
    · decide +kernel
    · obtain rfl := List.mem_singleton.mp last
      decide +kernel
  have evaluable : Evaluation.evaluable rules = rules := by rfl
  have both : rules.map (r.scoreAlone () .all fixturesOf) = [score, score] := by
    rw [List.map_congr_left scored]
    rfl
  have named : rules.map (fun rule => (rule.name, r.scoreAlone () .all fixturesOf rule)) =
      [("no-let", score), ("no-var", score)] := by
    rw [List.map_congr_left fun rule member => congrArg (rule.name, ·) (scored rule member)]
    rfl
  refine ⟨accepted, byKey, calm, bare, ev, elapsed, w', evaluated, like, ?_, ?_⟩
  · rw [like.rules, evaluationAlone, evaluable, named]
    exact List.mergeSort_of_pairwise (by decide +kernel)
  · rw [like.total, evaluationAlone, evaluable, both]
    rfl

end Reviewer

end PolicyLint
