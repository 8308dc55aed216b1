import PolicyLint.Proofs.Review.Requests
import PolicyLint.Proofs.Run.Provenance
import PolicyLint.Proofs.Score

/-!
# Trials

An evaluation is made of trials: a fixture with its label and the verdict that it came to. What is reported
is settled by the trials of each rule, by `evaluate_of_accepted`.
-/

namespace PolicyLint

/-- The fixtures that a selection includes. -/
theorem Fixtures.labeled_eq (s : Fixtures) : (selection : Selection) → s.labeled selection =
    match selection with
    | .all => s.correct.map (Label.correct, ·) ++ s.incorrect.map (Label.incorrect, ·)
    | .correctOnly => s.correct.map (Label.correct, ·)
    | .incorrectOnly => s.incorrect.map (Label.incorrect, ·)
  | .all => List.filter_eq_self.mpr fun _ _ => rfl
  | .correctOnly => by simp [labeled, List.filter_append, List.filter_map, Function.comp_def, Selection.includes]
  | .incorrectOnly => by simp [labeled, List.filter_append, List.filter_map, Function.comp_def, Selection.includes]

structure Trial where
  label : Label
  file : SourceFile
  verdict : Verdict

namespace Trial

def fixture (t : Trial) : Label × SourceFile := (t.label, t.file)

def score (t : Trial) : Score := Score.ofVerdict t.label t.verdict

/-- The fixture was judged, and as its label says. -/
def Right (t : Trial) : Prop := t.verdict.failures = [] ∧ (t.verdict.findings = [] ↔ t.label = .correct)

def make (fixtures : List (Label × SourceFile)) (verdicts : List Verdict) : List Trial :=
  (fixtures.zip verdicts).map fun x => { label := x.1.1, file := x.1.2, verdict := x.2 }

def scoreOf (trials : List Trial) : Score := (Score.fold (trials.map score)).merge { rules := 1 }

variable {fixtures : List (Label × SourceFile)} {verdicts : List Verdict}

theorem scoreOf_make : Evaluation.scoreOf fixtures verdicts = scoreOf (make fixtures verdicts) := by
  rw [Evaluation.scoreOf, scoreOf, make, List.map_map, ← List.map_uncurry_zip_eq_zipWith]
  rfl

theorem map_fixture_make (long : fixtures.length = verdicts.length) : (make fixtures verdicts).map fixture = fixtures := by
  rw [make, List.map_map]
  exact List.map_fst_zip (Nat.le_of_eq long)

theorem map_verdict_make (long : fixtures.length = verdicts.length) :
    (make fixtures verdicts).map verdict = verdicts := by
  rw [make, List.map_map]
  exact List.map_snd_zip (Nat.le_of_eq long.symm)

end Trial

namespace Evaluation

def evaluable (rules : List Rule) : List Rule := rules.filter fun rule => rule.scope = .file ∧ rule.hasDescription = true

theorem isEmpty_skipped (rule : Rule) :
    (skipped rule).isEmpty = decide (rule.scope = .file ∧ rule.hasDescription = true) := by
  unfold skipped
  by_cases scope : rule.scope = .file
  · rw [if_neg (not_not.mpr scope)]
    cases described : rule.hasDescription <;> simp [scope]
  · rw [if_pos scope]
    simp [scope]

theorem evaluable_eq (rules : List Rule) : (rules.filter fun rule => (skipped rule).isEmpty) = evaluable rules := by
  rw [evaluable, funext isEmpty_skipped]

def ofTrials (byRule : List (Rule × List Trial)) : Evaluation where
  rules := (byRule.map fun x => (x.1.name, Trial.scoreOf x.2)).mergeSort fun a b => decide (a.1 ≤ b.1)
  total := Score.fold (byRule.map fun x => Trial.scoreOf x.2)
  verdict := (Verdict.fold ((byRule.flatMap Prod.snd).map Trial.verdict)).normalized

end Evaluation

def World.noteUnevaluated {σ τ : Type} (w : World σ τ) (rules : List Rule) : World σ τ :=
  { w with notices := w.notices ++ rules.flatMap Evaluation.skipped }

namespace Reviewer

variable {σ τ : Type} (r : Reviewer σ τ) (plan : EvaluationPlan) (rules : List Rule) (fixturesOf : String → Fixtures)

/-- The trials of each rule in an evaluation: its fixtures with the verdicts of the run. -/
def trials (w : World σ τ) : List (Rule × List Trial) :=
  ((Evaluation.evaluable rules).zip (r.groupsRun plan rules fixturesOf (w.noteUnevaluated rules)).1.1).map fun x =>
    (x.1, Trial.make ((fixturesOf x.1.name).labeled plan.selection) x.2)

theorem groupsOf_eq : r.groupsOf plan rules fixturesOf = (Evaluation.evaluable rules).map fun rule =>
    ((fixturesOf rule.name).labeled plan.selection).map fun f => { file := f.2, rule, model := r.model } := by
  rw [groupsOf, Evaluation.evaluable_eq]

variable {r plan rules fixturesOf} {w : World σ τ}

theorem map_fst_trials (w : World σ τ) : (r.trials plan rules fixturesOf w).map Prod.fst = Evaluation.evaluable rules := by
  have long : (Evaluation.evaluable rules).length ≤
      (r.groupsRun plan rules fixturesOf (w.noteUnevaluated rules)).1.1.length := by
    rw [groupsRun, Engine.length_runGroups, groupsOf_eq, List.length_map]
  rw [trials, List.map_map]
  exact List.map_fst_zip long

/-- The trials of the evaluated rules are their fixtures, each with the answer to its task. -/
theorem trials_answered {answered : Task → Verdict → Prop}
    (run : List.Forall₂ (List.Forall₂ answered) (r.groupsOf plan rules fixturesOf)
      (r.groupsRun plan rules fixturesOf (w.noteUnevaluated rules)).1.1) :
    ((r.trials plan rules fixturesOf w).flatMap Prod.snd).map Trial.verdict =
        (r.groupsRun plan rules fixturesOf (w.noteUnevaluated rules)).1.1.flatten ∧
      ∀ x ∈ r.trials plan rules fixturesOf w, x.1 ∈ Evaluation.evaluable rules ∧
        x.2.map Trial.fixture = (fixturesOf x.1.name).labeled plan.selection ∧
        ∀ t ∈ x.2, answered { file := t.file, rule := x.1, model := r.model } t.verdict := by
  rw [groupsOf_eq] at run
  unfold trials
  generalize (r.groupsRun plan rules fixturesOf (w.noteUnevaluated rules)).1.1 = verdicts at run ⊢
  generalize Evaluation.evaluable rules = evaluated at run ⊢
  induction evaluated generalizing verdicts with
  | nil =>
    cases run
    exact ⟨rfl, by simp⟩
  | cons rule rest ih =>
    cases run with
    | @cons _ vs _ others first later =>
      obtain ⟨flat, each⟩ := ih others later
      have long : ((fixturesOf rule.name).labeled plan.selection).length = vs.length := by
        rw [← first.length_eq, List.length_map]
      refine ⟨?_, ?_⟩
      · rw [List.zip_cons_cons, List.map_cons, List.flatMap_cons, List.map_append, flat, Trial.map_verdict_make long,
          List.flatten_cons]
      · intro x member
        rcases List.mem_cons.mp member with rfl | behind
        · refine ⟨List.mem_cons_self, Trial.map_fixture_make long, ?_⟩
          intro t made
          obtain ⟨y, zipped, rfl⟩ := List.mem_map.mp made
          rw [List.forall₂_map_left_iff] at first
          exact (List.forall₂_iff_zip.mp first).2 zipped
        · obtain ⟨known, rest'⟩ := each x behind
          exact ⟨List.mem_cons_of_mem _ known, rest'⟩

/-- An evaluation that is not refused reports its trials. -/
theorem evaluate_of_accepted (r : Reviewer σ τ) (fixturesOf : String → Fixtures)
    (accepted : validateRules rules = .ok ()) (wide : 0 < plan.rulesAtOnce) (room : 0 < plan.filesAtOnce) (w : World σ τ) :
    ∃ notices, r.evaluate plan rules fixturesOf w =
      (.ok (.ofTrials (r.trials plan rules fixturesOf w),
          (r.groupsRun plan rules fixturesOf (w.noteUnevaluated rules)).1.2),
        r.save { (r.groupsRun plan rules fixturesOf (w.noteUnevaluated rules)).2 with notices }) := by
  have positive : ¬(plan.rulesAtOnce = 0 || plan.filesAtOnce = 0) = true := by
    simp only [Bool.or_eq_true, decide_eq_true_eq]
    omega
  have anything : r.engine.store.Faithful (fun _ _ => True) (w.noteUnevaluated rules).store :=
    fun _ _ _ _ _ => Or.inl trivial
  obtain ⟨flat, _⟩ := trials_answered (w := w)
    (r.engine.runGroups_answered (r.groupsOf plan rules fixturesOf) wide room (Engine.stops_always _) anything)
  unfold trials at flat ⊢
  rw [evaluate, accepted, Evaluation.evaluable_eq]
  dsimp only
  rw [if_neg positive, List.map_map, List.zip_map_left]
  have groups : r.engine.runGroups plan.rulesAtOnce plan.filesAtOnce ((Evaluation.evaluable rules).map
      ((fun x : Rule × List (Label × SourceFile) => x.2.map fun f => { file := f.2, rule := x.1, model := r.model : Task }) ∘
        fun rule => (rule, (fixturesOf rule.name).labeled plan.selection)))
      { w with notices := w.notices ++ rules.flatMap Evaluation.skipped } =
      r.groupsRun plan rules fixturesOf (w.noteUnevaluated rules) := by
    rw [groupsRun, groupsOf_eq]
    rfl
  rw [groups]
  generalize r.groupsRun plan rules fixturesOf (w.noteUnevaluated rules) = ran at flat ⊢
  obtain ⟨⟨verdicts, elapsed⟩, w'⟩ := ran
  dsimp only at flat ⊢
  have scores : (((Evaluation.evaluable rules).zip verdicts).map
        (Prod.map (fun rule => (rule, (fixturesOf rule.name).labeled plan.selection)) id)).map
        (fun x => (x.1.1.name, Evaluation.scoreOf x.1.2 x.2)) =
      (((Evaluation.evaluable rules).zip verdicts).map fun x =>
        (x.1, Trial.make ((fixturesOf x.1.name).labeled plan.selection) x.2)).map
          fun x => (x.1.name, Trial.scoreOf x.2) := by
    rw [List.map_map, List.map_map]
    exact List.map_congr_left fun x _ => congrArg (x.1.name, ·) Trial.scoreOf_make
  rw [Evaluation.ofTrials, flat, ← Verdict.fold_map_fold, scores, List.map_map (g := fun x : String × Score => x.2)]
  exact ⟨_, rfl⟩

end Reviewer

end PolicyLint
