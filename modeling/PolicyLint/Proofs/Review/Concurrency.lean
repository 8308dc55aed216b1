import PolicyLint.Proofs.Review.Input
import PolicyLint.Proofs.Review.Requests
import PolicyLint.Proofs.Run.Flight
import PolicyLint.Proofs.Run.Keys

/-!
# How much is asked at once

A run keeps to its bound, and an evaluation to the product of its two bounds. In neither of them a key is
asked for by two tasks.
-/

namespace PolicyLint

namespace Reviewer

variable {σ τ : Type}

theorem separate_groupsOf (r : Reviewer σ τ) (plan : EvaluationPlan) {rules : List Rule} (fixturesOf : String → Fixtures)
    (valid : validateRules rules = .ok ()) (apart : Task.Apart (r.groupsOf plan rules fixturesOf).flatten) :
    Engine.Separate (· ≠ ·) (r.groupsOf plan rules fixturesOf) := by
  refine Engine.separate_of_names ?_ ?_ apart
  · exact (names_of_validateRules valid).sublist (List.filter_sublist.map _)
  · intro rule _ t member
    obtain ⟨_, _, rfl⟩ := List.mem_map.mp member
    rfl

theorem flown_nothing (e : Engine σ τ) (limit : Nat) : e.Flown limit [] [] where
  few _ := Nat.zero_le _
  single _ _ := Nat.zero_le _
  sequential _ := .nil
  alone := .nil
  owned := by simp

/-- In a run of tasks at most as many calls are in flight as its bound allows, and in an evaluation as the
bounds on its rules and on their files allow together. Either way, of the tasks with one key only one is
put to the judge, and its calls follow one another. -/
theorem calls_in_flight (r : Reviewer σ τ) (w : World σ τ) :
    (∀ (tasks : List Task) (concurrency : Nat), 0 < concurrency →
      ∃ verdicts elapsed w' made, r.engine.run tasks concurrency w = .ok ((verdicts, elapsed), w') ∧
        w'.calls = w.calls ++ made ∧ verdicts.length = tasks.length ∧
        r.engine.Flown concurrency (tasks.zip verdicts) made ∧
        r.engine.Leads concurrency ⟨0, 0, w⟩ ⟨elapsed, 0, w'⟩ ∧
        ∀ m, r.engine.Leads concurrency ⟨0, 0, w⟩ m → m.asking.card ≤ concurrency) ∧
      ∀ (plan : EvaluationPlan) (rules : List Rule) (fixturesOf : String → Fixtures), ∃ made,
        (r.evaluate plan rules fixturesOf w).2.calls = w.calls ++ made ∧
          (∀ t, Call.flying t made ≤ plan.rulesAtOnce * plan.filesAtOnce) ∧
          (∃ time, r.engine.Leads (plan.rulesAtOnce * plan.filesAtOnce) ⟨0, 0, w⟩
            ⟨time, 0, (r.evaluate plan rules fixturesOf w).2⟩) ∧
          (∀ m, r.engine.Leads (plan.rulesAtOnce * plan.filesAtOnce) ⟨0, 0, w⟩ m →
            m.asking.card ≤ plan.rulesAtOnce * plan.filesAtOnce) ∧
          (Task.Apart (r.groupsOf plan rules fixturesOf).flatten →
            ∃ answers, r.engine.Flown (plan.rulesAtOnce * plan.filesAtOnce) answers made ∧
              ∀ ev elapsed, (r.evaluate plan rules fixturesOf w).1 = .ok (ev, elapsed) →
                answers.map Prod.fst = (r.groupsOf plan rules fixturesOf).flatten ∧
                  ev.verdict = (Verdict.fold (answers.map Prod.snd)).normalized) := by
  constructor
  · intro tasks concurrency positive
    have separate : Engine.Separate (· ≠ ·) [tasks] := List.pairwise_singleton _ _
    obtain ⟨made, calls, flown, answered, judged⟩ := Engine.runGroups_flown r.engine separate Nat.one_pos positive w
    have course := r.engine.runGroups_leads 1 concurrency [tasks] w
    have long := r.engine.length_runGroups 1 concurrency [tasks] w
    rw [Nat.one_mul] at flown course
    rw [Engine.run, if_neg (Nat.ne_of_gt positive)]
    generalize r.engine.runGroups 1 concurrency [tasks] w = result at calls flown answered judged course long
    obtain ⟨⟨groups, elapsed⟩, w'⟩ := result
    obtain ⟨verdicts, rfl⟩ := List.length_eq_one_iff.mp long
    have zipped : Engine.answersOf [tasks] [verdicts] = tasks.zip verdicts := List.append_nil _
    have same : verdicts.length = tasks.length := by
      have firsts := congrArg List.length answered
      have seconds := congrArg List.length judged
      rw [List.length_map, List.flatten_singleton] at firsts seconds
      exact seconds.symm.trans firsts
    rw [zipped] at flown
    refine ⟨verdicts, elapsed, w', made, ?_, calls, same, flown, course, fun m leads => leads.asking_le⟩
    dsimp only
    rw [List.flatten_singleton]
  · intro plan rules fixturesOf
    obtain ⟨time, course⟩ := r.evaluate_leads plan rules fixturesOf w
    refine ⟨_, course.calls, course.flying_le, ⟨time, course⟩, fun m leads => leads.asking_le, ?_⟩
    intro apart
    rcases r.evaluate_cases plan rules fixturesOf w with ⟨fault, refused⟩ | ⟨valid, wide, room, noted, notices, ev, ended, verdict⟩
    · rw [refused]
      refine ⟨[], ?_, fun ev elapsed absent => absurd absent (by simp)⟩
      rw [World.callsSince_self]
      exact flown_nothing _ _
    · obtain ⟨made, calls, flown, answered, verdicts⟩ := Engine.runGroups_flown r.engine
        (r.separate_groupsOf plan fixturesOf valid apart) wide room { w with notices := noted }
      have same : (r.evaluate plan rules fixturesOf w).2.callsSince w = made := by
        rw [ended, World.callsSince, (save_eq r _).1]
        exact (congrArg (List.drop w.calls.length) calls).trans List.drop_left
      rw [same]
      refine ⟨_, flown, ?_⟩
      intro ev' elapsed reported
      rw [ended] at reported
      obtain ⟨rfl, _⟩ := Prod.mk.inj (Except.ok.inj reported)
      refine ⟨answered, ?_⟩
      rw [verdict, verdicts]
      rfl

theorem calls_in_flight_of_twins :
    let rules : List Rule := [{ name := "no-let", description := "Use const." }]
    let fixtures : Fixtures := { correct := [⟨"a.ts", "let a;"⟩], incorrect := [⟨"b.ts", "let a;"⟩] }
    let r : Reviewer Unit Unit :=
      { engine := { judge := .constant { outcome := .error (.transient "busy"), delay := 5 }, store := .forgetful, retry := {} } }
    let w : World Unit Unit := { judge := (), store := () }
    let plan : EvaluationPlan := { rulesAtOnce := 2, filesAtOnce := 3 }
    let tasks := (r.groupsOf plan rules fun _ => fixtures).flatten
    (∃ verdicts elapsed w' made, r.engine.run tasks 2 w = .ok ((verdicts, elapsed), w') ∧ w'.calls = made ∧
        r.engine.Flown 2 (tasks.zip verdicts) made) ∧
      ∃ made answers, (r.evaluate plan rules (fun _ => fixtures) w).2.calls = made ∧ r.engine.Flown 6 answers made := by
  intro rules fixtures r w plan tasks
  have apart : Task.Apart tasks := Task.apart_twins rfl rfl
  obtain ⟨runs, evaluations⟩ := calls_in_flight r w
  obtain ⟨verdicts, elapsed, w', made, ran, calls, _, flown, _⟩ := runs tasks 2 (by decide)
  obtain ⟨made', calls', _, _, _, single⟩ := evaluations plan rules (fun _ => fixtures)
  obtain ⟨answers, flown', _⟩ := single apart
  exact ⟨⟨verdicts, elapsed, w', made, ran, calls, flown⟩, made', answers, calls', flown'⟩

end Reviewer

end PolicyLint
