import PolicyLint.Proofs.Run.Attempts
import PolicyLint.Proofs.Run.Unaborted

/-!
# Counted retries

A retry is counted when the wait before it begins. A run that is aborted during the wait makes no call after it, so
the last retry that is counted was not sent. `run_retried` says that this is the only case in which the retries are
not the calls after the first one.
-/

namespace PolicyLint

/-- A failure of the verdict says that its task was given up. -/
def Verdict.GivenUp (v : Verdict) : Prop := ∃ f ∈ v.failures, f.kind = .cancelled

structure Verdict.Retried (v : Verdict) : Prop where
  sent : ¬v.GivenUp → v.retries = v.calls - 1
  waited : v.GivenUp → v.retries = v.calls

theorem Verdict.Free.retried {v : Verdict} (free : v.Free) : v.Retried := by
  constructor
  · intro _
    rw [free.retries, free.calls]
  · intro _
    rw [free.retries, free.calls]

theorem Conclusion.kind_of_failed {task : Task} {attempts left : Nat} {outcome : Except JudgeFault Completion}
    {kind : FailureKind} {why : String} (failed : ofOutcome task attempts left outcome = .failed kind why) :
    kind ≠ .cancelled := by
  rw [ofOutcome_eq] at failed
  cases upshot : Upshot.ofOutcome task outcome with
  | accepted findings =>
    rw [upshot] at failed
    cases failed
  | refused why' =>
    rw [upshot] at failed
    cases failed
    decide
  | passing why' =>
    rw [upshot] at failed
    cases left with
    | zero =>
      cases failed
      decide
    | succ left => cases failed

namespace Engine

variable {σ τ : Type} {e : Engine σ τ} {stopped : Nat → Prop} {tasks : List Task} {w w' : World σ τ}

theorem After.retried {job : Job} {calls : List Call} {v : Verdict} (after : e.After stopped job calls (.inr v)) :
    v.Retried := by
  cases after with
  | @judged calls call started findings passed asks concluded =>
    refine ⟨fun _ => ?_, ?_⟩
    · show calls.length = (calls ++ [call]).length - 1
      rw [List.length_append, List.length_singleton, Nat.add_sub_cancel]
    · rintro ⟨f, member, _⟩
      cases member
  | @failed calls call started kind why passed asks concluded =>
    refine ⟨fun _ => ?_, ?_⟩
    · show calls.length = (calls ++ [call]).length - 1
      rw [List.length_append, List.length_singleton, Nat.add_sub_cancel]
    · rintro ⟨f, member, cancelled⟩
      rw [List.mem_singleton.mp member] at cancelled
      exact absurd cancelled (Conclusion.kind_of_failed concluded)
  | cancelled passed stop =>
    refine ⟨fun kept => ?_, fun _ => rfl⟩
    exact absurd ⟨_, List.mem_singleton.mpr rfl, rfl⟩ kept

theorem Ran.retried {results : Key → Verdict} {verdicts : List Verdict} (ran : e.Ran stopped tasks w w' results verdicts) :
    ∀ v ∈ verdicts, v.Retried := by
  intro v member
  obtain ⟨i, inside, rfl⟩ := List.mem_iff_getElem.mp member
  have here := List.getElem?_eq_getElem (ran.length ▸ inside : i < tasks.length)
  have verdict : verdicts[i]? = some verdicts[i] := List.getElem?_eq_getElem inside
  rcases ran.cases here with ⟨u, _, is⟩ | ⟨first, is⟩ | ⟨_, _, is⟩
  · rw [Option.some.inj (verdict.symm.trans is)]
    exact (u.free_servedTo _).retried
  · rw [Option.some.inj (verdict.symm.trans is)]
    exact (ran.checked first).retried
  · rw [Option.some.inj (verdict.symm.trans is)]
    exact (Verdict.free_sharedWith _ _).retried

/-- In every run, each verdict counts as retries its calls after the first one, or none if it has no calls. If its task
was given up after a call, it counts one more, for which there was no call. -/
theorem run_retried (e : Engine σ τ) (tasks : List Task) {concurrency : Nat} (positive : 0 < concurrency)
    (w : World σ τ) :
    ∃ verdicts elapsed w', e.run tasks concurrency w = .ok ((verdicts, elapsed), w') ∧ ∀ v ∈ verdicts, v.Retried := by
  obtain ⟨verdicts, elapsed, w', results, ended, ran, _⟩ := run_ran e tasks positive (stops_always w)
  exact ⟨verdicts, elapsed, w', ended, ran.retried⟩

/-- In a run of one task, all calls are about the task. -/
theorem Ran.forKey_alone {results : Key → Verdict} {verdicts : List Verdict} {task : Task}
    (ran : e.Ran stopped [task] w w' results verdicts) : Call.forKey task.key (w'.callsSince w) = w'.callsSince w := by
  refine Call.forKey_eq_self fun call member => ?_
  obtain ⟨job, known, asks⟩ := ran.asks call member
  obtain ⟨i, t, rfl, here, _⟩ := firstMissed_of_job e known
  obtain rfl := List.mem_singleton.mp (List.mem_of_getElem? here)
  exact asks.2.1

/-- A check that ends while every fault may still pass was cancelled. -/
theorem After.cancelled_of_passing {job : Job} {calls : List Call} {v : Verdict}
    (passing : ∀ call ∈ calls, ∃ why, Upshot.ofOutcome job.task call.outcome = .passing why)
    (few : calls.length < e.retry.attempts) (after : e.After stopped job calls (.inr v)) :
    v.failures = [failureOf job .cancelled (abortedWhy calls.length)] ∧ v.retries = calls.length := by
  cases after with
  | @judged calls call started findings passed asks concluded =>
    obtain ⟨why, passes⟩ := passing call (List.mem_append_right _ List.mem_cons_self)
    rw [concludes, Conclusion.ofOutcome_eq, passes] at concluded
    cases left : e.retry.attempts - (calls.length + 1) <;> rw [left] at concluded <;> cases concluded
  | @failed calls call started kind why passed asks concluded =>
    obtain ⟨why', passes⟩ := passing call (List.mem_append_right _ List.mem_cons_self)
    rw [List.length_append, List.length_singleton] at few
    rw [concludes, Conclusion.ofOutcome_eq, passes] at concluded
    obtain ⟨left, some⟩ := Nat.exists_eq_succ_of_ne_zero (Nat.sub_ne_zero_of_lt few)
    rw [some] at concluded
    cases concluded
  | cancelled passed stop => exact ⟨rfl, rfl⟩

theorem Asks.passing {job : Job} {time : Nat} {call : Call}
    (busy : ∀ s prompt model, ∃ why, (e.judge.ask s prompt model).1.outcome = .error (.transient why))
    (asks : e.Asks job time call) (task : Task) : ∃ why, Upshot.ofOutcome task call.outcome = .passing why := by
  obtain ⟨_, _, _, _, s, settled⟩ := asks
  obtain ⟨why, fault⟩ := busy s call.prompt call.model
  unfold settle at settled
  split at settled
  · have outcome := (Prod.mk.inj (Prod.mk.inj settled).2).2
    exact ⟨why, by rw [← outcome, fault, Upshot.ofOutcome]⟩
  · have outcome := (Prod.mk.inj (Prod.mk.inj settled).2).2
    exact ⟨_, by rw [← outcome, Upshot.ofOutcome]⟩

/-- A run of one task under a judge that is always busy, with attempts left in the end, counts a retry for every call. -/
theorem Ran.cancelled_alone {results : Key → Verdict} {verdicts : List Verdict} {task : Task}
    (ran : e.Ran stopped [task] w w' results verdicts) (missed : e.found [task] w.store = [none])
    (busy : ∀ s prompt model, ∃ why, (e.judge.ask s prompt model).1.outcome = .error (.transient why))
    (few : (w'.callsSince w).length < e.retry.attempts) :
    ∃ v, verdicts = [v] ∧ v.failures = [failureOf task.job .cancelled (abortedWhy (w'.callsSince w).length)] ∧
      v.calls = (w'.callsSince w).length ∧ v.retries = (w'.callsSince w).length := by
  have first : FirstMissed [task] (e.found [task] w.store) 0 task := by
    rw [missed]
    exact ⟨rfl, rfl, fun j _ less => absurd less (Nat.not_lt_zero j)⟩
  have after := ran.checked first
  rw [ran.forKey_alone] at after
  obtain ⟨v, rfl⟩ := List.length_eq_one_iff.mp ran.length
  obtain rfl := Option.some.inj (ran.checked_verdict first)
  have passing : ∀ call ∈ w'.callsSince w, ∃ why, Upshot.ofOutcome task call.outcome = .passing why := by
    intro call member
    obtain ⟨_, _, asks⟩ := ran.asks call member
    exact asks.passing busy task
  obtain ⟨failures, retries⟩ := after.cancelled_of_passing passing few
  exact ⟨_, rfl, failures, after.bills.calls, retries⟩

/-- The call aborts the run, so the one retry that is counted is not sent. -/
theorem run_retried_of_busy :
    let task : Task := { file := ⟨"a.ts", "let a;"⟩, rule := { name := "no-let", description := "Use const." }, model := {} }
    let e : Engine Unit Unit :=
      { judge := .constant { outcome := .error (.transient "busy"), aborts := true }, store := .forgetful, retry := {} }
    ∃ v elapsed w', e.run [task] 8 { judge := (), store := () } = .ok (([v], elapsed), w') ∧
      v.failures = [failureOf task.job .cancelled "Run aborted after 1 attempt(s)"] ∧ v.calls = 1 ∧ v.retries = 1 ∧
      v.Retried := by
  intro task e
  let w : World Unit Unit := { judge := (), store := () }
  obtain ⟨verdicts, elapsed, w', ended, retried⟩ := run_retried e [task] (by decide : 0 < 8) w
  obtain ⟨results, ran, _⟩ := ran_of_run (stops_always w) ended
  have one : (e.run [task] 8 w).toOption.map (fun r => (r.2.callsSince w).length) = some 1 := by decide +kernel
  rw [ended] at one
  have once : (w'.callsSince w).length = 1 := Option.some.inj one
  obtain ⟨v, rfl, failures, calls, retries⟩ :=
    ran.cancelled_alone rfl (fun _ _ _ => ⟨"busy", rfl⟩) (by rw [once]; decide)
  rw [once] at failures calls retries
  exact ⟨v, elapsed, w', ended, failures, calls, retries, retried v List.mem_cons_self⟩

/-- The second of two attempts is due after half a second, and the run is aborted before. -/
theorem not_sent_of_abort :
    ¬∀ (e : Engine Unit Unit) (tasks : List Task) (concurrency elapsed : Nat) (w w' : World Unit Unit)
      (verdicts : List Verdict), e.run tasks concurrency w = .ok ((verdicts, elapsed), w') →
      ∀ v ∈ verdicts, v.retries = v.calls - 1 := by
  intro sent
  let task : Task := { file := ⟨"a.ts", "let a;"⟩, rule := { name := "no-let", description := "Use const." }, model := {} }
  let e : Engine Unit Unit :=
    { judge := .constant { outcome := .error (.transient "busy") }, store := .forgetful, retry := { maxAttempts := 2 } }
  let w : World Unit Unit := { judge := (), store := (), abortAt := some (.atTime 1) }
  obtain ⟨verdicts, elapsed, w', results, ended, ran, _⟩ := run_ran e [task] (by decide : 0 < 8) (stops_always w)
  have one : (e.run [task] 8 w).toOption.map (fun r => (r.2.callsSince w).length) = some 1 := by decide +kernel
  rw [ended] at one
  have once : (w'.callsSince w).length = 1 := Option.some.inj one
  obtain ⟨v, rfl, _, calls, retries⟩ := ran.cancelled_alone rfl (fun _ _ _ => ⟨"busy", rfl⟩) (by rw [once]; decide)
  have counted := sent e [task] 8 elapsed w w' [v] ended v List.mem_cons_self
  rw [calls, retries, once] at counted
  exact absurd counted (by decide)

end Engine

end PolicyLint
