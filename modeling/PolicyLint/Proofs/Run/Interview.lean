import PolicyLint.Proofs.Run.Keyed

/-!
# Interviews

In a run the judge is asked one call after the other, each in the state in which the call before has left it.
`run_interviewed` says so of every run, whether it is aborted or not.
-/

namespace PolicyLint

namespace Engine

variable {σ τ : Type} {e : Engine σ τ}

/-- Calls of the judge one after the other, from one of its states to another. -/
inductive Interview (e : Engine σ τ) (s : σ) : List Call → σ → Prop where
  | none : Interview e s [] s
  | more {calls : List Call} {call : Call} {s' : σ} (before : Interview e s calls s')
      (settled : e.settle call.start (e.judge.ask s' call.prompt call.model).1 =
        (call.stop, call.aborts, call.outcome)) :
      Interview e s (calls ++ [call]) (e.judge.ask s' call.prompt call.model).2

structure Interviewed (e : Engine σ τ) (tasks : List Task) (base w : World σ τ) : Prop where
  calls : w.calls = base.calls ++ w.callsSince base
  interview : e.Interview base.judge (w.callsSince base) w.judge
  about : ∀ call ∈ w.callsSince base, ∃ t ∈ tasks, call.key = t.key ∧ call.prompt = t.prompt ∧ call.model = t.model

def OfTasks (tasks : List Task) (job : Job) (_ : Stage) (_ : World σ τ) : Prop := job.key = job.task.key ∧ job.task ∈ tasks

variable {tasks : List Task} {base w w' : World σ τ}

theorem Interviewed.of_silence (judge : w.judge = base.judge) (calls : w.calls = base.calls) :
    e.Interviewed tasks base w := by
  have none : w.callsSince base = [] := by rw [World.callsSince, calls, List.drop_length]
  refine ⟨by rw [none, calls, List.append_nil], ?_, by simp [none]⟩
  rw [none, judge]
  exact .none

theorem Interviewed.silent (interviewed : e.Interviewed tasks base w) (judge : w'.judge = w.judge)
    (calls : w'.calls = w.calls) : e.Interviewed tasks base w' := by
  have since : w'.callsSince base = w.callsSince base := by rw [World.callsSince, calls, World.callsSince]
  obtain ⟨grown, interview, about⟩ := interviewed
  exact ⟨by rw [since, calls, grown], by rw [since, judge]; exact interview, by rw [since]; exact about⟩

theorem Interviewed.call (interviewed : e.Interviewed tasks base w) {job : Job} (keyed : job.key = job.task.key)
    (known : job.task ∈ tasks) {time : Nat} (judge : w'.judge = (e.judge.ask w.judge job.task.prompt job.task.model).2)
    (calls : w'.calls = w.calls ++ [e.callOf time job w.judge]) : e.Interviewed tasks base w' := by
  obtain ⟨grown, interview, about⟩ := interviewed
  have since : w'.callsSince base = w.callsSince base ++ [e.callOf time job w.judge] := callsSince_append grown calls
  refine ⟨by rw [since, calls, grown, List.append_assoc], ?_, fun call member => ?_⟩
  · rw [since, judge]
    exact interview.more rfl
  · rw [since] at member
    rcases List.mem_append.mp member with earlier | last
    · exact about call earlier
    · obtain rfl := List.mem_singleton.mp last
      exact ⟨job.task, known, keyed, rfl, rfl⟩

theorem Interviewed.attempt (interviewed : e.Interviewed tasks base w) {c : Check} (keyed : c.job.key = c.job.task.key)
    (known : c.job.task ∈ tasks) (time : Nat) : e.Interviewed tasks base (e.attempt time c w).2 := by
  cases aborted : w.isAborted time with
  | true =>
    rw [attempt_of_aborted e aborted]
    exact interviewed.silent rfl rfl
  | false =>
    rw [attempt_of_not_aborted e aborted]
    exact interviewed.call keyed known rfl rfl

theorem succeed_judge (e : Engine σ τ) (time : Nat) (c : Check) (findings : List Finding) (w : World σ τ) :
    (e.succeed time c findings w).2.judge = w.judge := by
  rcases asked : e.store.set w.store c.job.key { c.cost with findings, latency := time - c.started } with
    ⟨stored | _, t⟩
  · simp only [succeed, asked]
    rfl
  · simp only [succeed, asked]

theorem Interviewed.step (interviewed : e.Interviewed tasks base w) {c : Check} (keyed : c.job.key = c.job.task.key)
    (known : c.job.task ∈ tasks) (time : Nat) : e.Interviewed tasks base (e.step time c w).2 := by
  cases phase : c.phase with
  | resting =>
    have unchanged : e.step time c w = e.attempt time c w := by rw [Engine.step, phase]
    rw [unchanged]
    exact interviewed.attempt keyed known time
  | calling aborts outcome =>
    rw [step_calling e phase]
    split
    · rename_i findings _
      obtain ⟨_, follows, _⟩ := succeed_eq e time (bill c outcome) findings { w with aborted := w.aborted || aborts }
      exact interviewed.silent (succeed_judge e time _ _ _) (follows.calls.trans (List.append_nil _))
    · exact interviewed.silent rfl rfl
    · exact interviewed.silent rfl rfl

-- The judge has one state for all tasks, so no keys need to be kept apart.
theorem interviewed_upkeep (e : Engine σ τ) (tasks : List Task) (base : World σ τ) :
    e.Upkeep (fun _ _ => True) (fun _ => e.Interviewed tasks base) (OfTasks tasks) where
  symm _ := trivial
  ofNe _ := trivial
  later interviewed _ := interviewed
  start := by
    intro time job w interviewed listed
    let c : Check := { job, started := time, cost := Check.initialCost, left := e.retry.attempts - 1, phase := .resting,
                       due := time }
    exact ⟨interviewed.attempt (c := c) listed.1 listed.2 time, listed, fun _ before => before⟩
  step := by
    intro c w interviewed listed
    exact ⟨interviewed.step listed.1 listed.2 c.due, listed, fun _ before => before⟩

theorem run_interviewed {concurrency elapsed : Nat} {verdicts : List Verdict}
    (ended : e.run tasks concurrency w = .ok ((verdicts, elapsed), w')) (positive : 0 < concurrency) :
    e.Interviewed tasks w w' := by
  obtain ⟨judge, _, _, calls, _⟩ := assign_alike e [] tasks w
  obtain ⟨_, _, _, ended', interviewed, _⟩ := run_keeps (interviewed_upkeep e tasks w) (Q := fun _ _ => True) positive
    (Interviewed.of_silence judge calls) trivial
    (fun job member => by
      rw [assign_slots] at member
      obtain ⟨t, known, rfl⟩ := mem_jobsOf_slotsOf member
      exact ⟨rfl, known⟩)
    (fun t known => ⟨rfl, known⟩)
  obtain ⟨_, rfl⟩ := Prod.mk.inj (Except.ok.inj (ended.symm.trans ended'))
  exact interviewed

end Engine

end PolicyLint
