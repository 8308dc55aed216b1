import PolicyLint.Proofs.Total
import PolicyLint.Run.Check

/-!
# What calls make of a check

The calls of a check follow one another: each but the last one is followed by a wait and the next
attempt. `After` says what a check has come to after its calls, whether it goes on or has ended, and
`after_start` and `after_step` say that every step of a check keeps to that.
-/

namespace PolicyLint

namespace Call

def promptTokens (call : Call) : UInt64 :=
  match call.outcome with
  | .ok completion => completion.promptTokens
  | .error _ => 0

def completionTokens (call : Call) : UInt64 :=
  match call.outcome with
  | .ok completion => completion.completionTokens
  | .error _ => 0

end Call

def Judge.constant (response : Response) : Judge Unit where
  ask s _ _ := (response, s)

namespace Check

/-- What calls cost, of which a given count was followed by a wait. -/
def costOf (calls : List Call) (retries : Nat) : Verdict where
  checks := 1
  misses := 1
  calls := calls.length
  retries := retries
  promptTokens := total Call.promptTokens calls
  completionTokens := total Call.completionTokens calls

def aborts (c : Check) : Bool :=
  match c.phase with
  | .calling aborts _ => aborts
  | .resting => false

end Check

def Store.sets {τ : Type} (s : Store τ) (filed : List (Key × Verdict)) (t : τ) : τ :=
  filed.foldl (fun t p => (s.set t p.1 p.2).2) t

namespace Engine

variable {σ τ : Type}

/-- A call that the judge is asked about a job at a time. -/
def Asks (e : Engine σ τ) (job : Job) (time : Nat) (call : Call) : Prop :=
  call.start = time ∧ call.key = job.key ∧ call.prompt = job.task.prompt ∧ call.model = job.task.model ∧
    ∃ s, e.settle time (e.judge.ask s call.prompt call.model).1 = (call.stop, call.aborts, call.outcome)

def concludes (e : Engine σ τ) (job : Job) (earlier : Nat) (call : Call) : Conclusion :=
  Conclusion.ofOutcome job.task (earlier + 1) (e.retry.attempts - (earlier + 1)) call.outcome

/-- Calls that a check got over. The next attempt is due at the time. -/
inductive Passed (e : Engine σ τ) (job : Job) (started : Nat) : List Call → Nat → Prop where
  | none : Passed e job started [] started
  | more {calls : List Call} {call : Call} {why : String} {left : Nat}
      (before : Passed e job started calls call.start) (asks : e.Asks job call.start call)
      (again : e.concludes job calls.length call = .again why left) :
      Passed e job started (calls ++ [call]) (call.stop + e.retry.delayAfter (calls.length + 1))

def failureOf (job : Job) (kind : FailureKind) (why : String) : Failure :=
  { rule := job.task.rule.name, path := job.task.file.path, message := why, kind }

/-- What a job has come to after calls. It can have been cancelled only at a time at which the run was
stopped. -/
inductive After (e : Engine σ τ) (stopped : Nat → Prop) (job : Job) : List Call → Progress → Prop where
  | resting {calls : List Call} {c : Check} (passed : e.Passed job c.started calls c.due) (same : c.job = job)
      (phase : c.phase = .resting) (cost : c.cost = Check.costOf calls calls.length)
      (left : c.left = e.retry.attempts - (calls.length + 1)) : After e stopped job calls (.inl c)
  | calling {calls : List Call} {call : Call} {c : Check} (passed : e.Passed job c.started calls call.start)
      (asks : e.Asks job call.start call) (same : c.job = job)
      (phase : c.phase = .calling call.aborts call.outcome) (due : c.due = call.stop)
      (cost : c.cost = { Check.costOf calls calls.length with calls := calls.length + 1 })
      (left : c.left = e.retry.attempts - (calls.length + 1)) : After e stopped job (calls ++ [call]) (.inl c)
  | judged {calls : List Call} {call : Call} {started : Nat} {findings : List Finding}
      (passed : e.Passed job started calls call.start) (asks : e.Asks job call.start call)
      (concluded : e.concludes job calls.length call = .judged findings) :
      After e stopped job (calls ++ [call])
        (.inr { Check.costOf (calls ++ [call]) calls.length with findings, latency := call.stop - started })
  | failed {calls : List Call} {call : Call} {started : Nat} {kind : FailureKind} {why : String}
      (passed : e.Passed job started calls call.start) (asks : e.Asks job call.start call)
      (concluded : e.concludes job calls.length call = .failed kind why) :
      After e stopped job (calls ++ [call])
        (.inr
          { Check.costOf (calls ++ [call]) calls.length with
            failures := [failureOf job kind why], latency := call.stop - started })
  | cancelled {calls : List Call} {started due : Nat} (passed : e.Passed job started calls due)
      (stop : stopped due) :
      After e stopped job calls
        (.inr
          { Check.costOf calls calls.length with
            failures := [failureOf job .cancelled (abortedWhy calls.length)], latency := due - started })

def filedFor (job : Job) : Progress → List (Key × Verdict)
  | .inl _ => []
  | .inr v => if v.failures.isEmpty then [(job.key, v)] else []

/-! ### What a step does to the world -/

/-- A world that follows another one by calls and by verdicts that were handed to the store. -/
structure Follows (e : Engine σ τ) (w w' : World σ τ) (made : List Call) (stored : List (Key × Verdict)) :
    Prop where
  calls : w'.calls = w.calls ++ made
  filed : w'.filed = w.filed ++ stored
  store : w'.store = e.store.sets stored w.store
  abortAt : w'.abortAt = w.abortAt

theorem Follows.note {e : Engine σ τ} {w w' : World σ τ} {made : List Call} {stored : List (Key × Verdict)}
    (follows : e.Follows w w' made stored) (notice : Notice) : e.Follows w (w'.note notice) made stored :=
  ⟨follows.calls, follows.filed, follows.store, follows.abortAt⟩

theorem Follows.refl (e : Engine σ τ) (w : World σ τ) : e.Follows w w [] [] :=
  ⟨(List.append_nil _).symm, (List.append_nil _).symm, rfl, rfl⟩

def callOf (e : Engine σ τ) (time : Nat) (job : Job) (s : σ) : Call :=
  let settled := e.settle time (e.judge.ask s job.task.prompt job.task.model).1
  { start := time, stop := settled.1, key := job.key, prompt := job.task.prompt, model := job.task.model
    aborts := settled.2.1, outcome := settled.2.2 }

theorem callOf_asks (e : Engine σ τ) (time : Nat) (job : Job) (s : σ) : e.Asks job time (e.callOf time job s) :=
  ⟨rfl, rfl, rfl, rfl, s, rfl⟩

theorem attempt_of_aborted (e : Engine σ τ) {time : Nat} {c : Check} {w : World σ τ}
    (aborted : w.isAborted time = true) :
    e.attempt time c w =
      (.inr
          { c.cost with
            failures := c.cost.failures ++ [failureOf c.job .cancelled (abortedWhy c.cost.calls)]
            latency := time - c.started },
        w.note (.unjudged c.job.task.file.path c.job.task.rule.name (abortedWhy c.cost.calls))) := by
  rw [attempt, if_pos aborted]
  rfl

theorem attempt_of_not_aborted (e : Engine σ τ) {time : Nat} {c : Check} {w : World σ τ}
    (going : w.isAborted time = false) :
    e.attempt time c w =
      (.inl
          { c with
            cost := { c.cost with calls := c.cost.calls + 1 }
            phase := .calling (e.callOf time c.job w.judge).aborts (e.callOf time c.job w.judge).outcome
            due := (e.callOf time c.job w.judge).stop },
        { w with
          judge := (e.judge.ask w.judge c.job.task.prompt c.job.task.model).2
          calls := w.calls ++ [e.callOf time c.job w.judge] }) := by
  rw [attempt, if_neg (by simp [going])]
  rfl

theorem succeed_eq (e : Engine σ τ) (time : Nat) (c : Check) (findings : List Finding) (w : World σ τ) :
    (e.succeed time c findings w).1 = { c.cost with findings, latency := time - c.started } ∧
      e.Follows w (e.succeed time c findings w).2 []
        [(c.job.key, { c.cost with findings, latency := time - c.started })] ∧
      (e.succeed time c findings w).2.aborted = w.aborted := by
  rcases asked : e.store.set w.store c.job.key { c.cost with findings, latency := time - c.started } with
    ⟨stored, t⟩
  have kept : e.store.sets [(c.job.key, { c.cost with findings, latency := time - c.started })] w.store = t := by
    rw [Store.sets, List.foldl_cons, List.foldl_nil, asked]
  rcases stored with fault | done
  · simp only [succeed, asked]
    exact ⟨trivial, ⟨(List.append_nil _).symm, rfl, kept.symm, rfl⟩, rfl⟩
  · simp only [succeed, asked]
    exact ⟨trivial, ⟨(List.append_nil _).symm, rfl, kept.symm, rfl⟩, trivial⟩

/-! ### Steps keep to the history -/

/-- The calls that a step makes start at once, and none is made once the run is aborted. -/
def MadeAt (e : Engine σ τ) (job : Job) (time : Nat) (w : World σ τ) (made : List Call) : Prop :=
  ∀ call ∈ made, e.Asks job time call ∧ w.isAborted time = false

theorem after_attempt (e : Engine σ τ) {stopped : Nat → Prop} (calls : List Call) {c : Check} {time : Nat}
    {w : World σ τ} (passed : e.Passed c.job c.started calls time)
    (cost : c.cost = Check.costOf calls calls.length) (left : c.left = e.retry.attempts - (calls.length + 1))
    (stop : w.isAborted time = true → stopped time) :
    ∃ made, e.Follows w (e.attempt time c w).2 made (filedFor c.job (e.attempt time c w).1) ∧
      e.After stopped c.job (calls ++ made) (e.attempt time c w).1 ∧
      (e.attempt time c w).2.aborted = w.aborted ∧ e.MadeAt c.job time w made := by
  cases aborted : w.isAborted time with
  | true =>
    rw [attempt_of_aborted e aborted, cost]
    refine ⟨[], (Follows.refl e w).note _, ?_, rfl, by simp [MadeAt]⟩
    rw [List.append_nil]
    exact .cancelled passed (stop aborted)
  | false =>
    rw [attempt_of_not_aborted e aborted]
    refine ⟨[e.callOf time c.job w.judge], ⟨rfl, (List.append_nil _).symm, rfl, rfl⟩, ?_, rfl, ?_⟩
    · exact .calling passed (callOf_asks e time c.job w.judge) rfl rfl rfl (by rw [cost]; rfl) left
    · intro call member
      rw [List.mem_singleton.mp member]
      exact ⟨callOf_asks e time c.job w.judge, aborted⟩

theorem after_start (e : Engine σ τ) {stopped : Nat → Prop} {time : Nat} (job : Job) {w : World σ τ}
    (stop : w.isAborted time = true → stopped time) :
    ∃ made, e.Follows w (e.start time job w).2 made (filedFor job (e.start time job w).1) ∧
      e.After stopped job made (e.start time job w).1 ∧
      (e.start time job w).2.aborted = w.aborted ∧ e.MadeAt job time w made := by
  unfold start
  exact after_attempt e []
    (c := { job, started := time, cost := Check.initialCost, left := e.retry.attempts - 1, phase := .resting,
            due := time })
    .none rfl rfl stop

theorem bill_calling {c : Check} {calls : List Call} (call : Call)
    (cost : c.cost = { Check.costOf calls calls.length with calls := calls.length + 1 }) :
    bill c call.outcome = { c with cost := Check.costOf (calls ++ [call]) calls.length } := by
  have prompt := total_append Call.promptTokens calls [call]
  have completion := total_append Call.completionTokens calls [call]
  rw [total_singleton] at prompt completion
  unfold Check.costOf
  rw [prompt, completion, List.length_append, List.length_singleton]
  cases outcome : call.outcome with
  | ok completion => simp [bill, cost, Check.costOf, Call.promptTokens, Call.completionTokens, outcome]
  | error fault =>
    rw [Call.promptTokens, Call.completionTokens, outcome]
    cases c
    simp_all [bill, Check.costOf]

theorem step_calling (e : Engine σ τ) {time : Nat} {c : Check} {w : World σ τ} {aborts : Bool}
    {outcome : Except JudgeFault Completion} (phase : c.phase = .calling aborts outcome) :
    e.step time c w =
      match Conclusion.ofOutcome c.job.task (bill c outcome).cost.calls (bill c outcome).left outcome with
      | .judged findings =>
        (.inr (e.succeed time (bill c outcome) findings { w with aborted := w.aborted || aborts }).1,
          (e.succeed time (bill c outcome) findings { w with aborted := w.aborted || aborts }).2)
      | .failed kind why =>
        (.inr (giveUp time (bill c outcome) kind why { w with aborted := w.aborted || aborts }).1,
          (giveUp time (bill c outcome) kind why { w with aborted := w.aborted || aborts }).2)
      | .again why left =>
        (.inl
            { bill c outcome with
              cost := { (bill c outcome).cost with retries := (bill c outcome).cost.retries + 1 }
              left, phase := .resting, due := time + e.retry.delayAfter (bill c outcome).cost.calls },
          { w with aborted := w.aborted || aborts }.note
            (.retrying (bill c outcome).cost.calls e.retry.attempts c.job.task.file.path c.job.task.rule.name
              (e.retry.delayAfter (bill c outcome).cost.calls) why)) := by
  cases c
  cases phase
  rfl

theorem after_step (e : Engine σ τ) {stopped : Nat → Prop} {job : Job} {calls : List Call} {c : Check}
    {w : World σ τ} (after : e.After stopped job calls (.inl c))
    (stop : w.isAborted c.due = true → stopped c.due) :
    ∃ made, e.Follows w (e.step c.due c w).2 made (filedFor job (e.step c.due c w).1) ∧
      e.After stopped job (calls ++ made) (e.step c.due c w).1 ∧
      (e.step c.due c w).2.aborted = (w.aborted || c.aborts) ∧ e.MadeAt job c.due w made := by
  cases after with
  | resting passed same phase cost left =>
    subst same
    have unchanged : e.step c.due c w = e.attempt c.due c w := by rw [step, phase]
    have calm : c.aborts = false := by rw [Check.aborts, phase]
    rw [unchanged, calm, Bool.or_false]
    exact after_attempt e calls passed cost left stop
  | @calling calls call c passed asks same phase due cost left =>
    subst same
    have aborts : c.aborts = call.aborts := by rw [Check.aborts, phase]
    have billed := bill_calling call cost
    have conclusion : Conclusion.ofOutcome c.job.task (bill c call.outcome).cost.calls (bill c call.outcome).left
        call.outcome = e.concludes c.job calls.length call := by
      rw [billed, concludes, left]
      simp [Check.costOf]
    rw [aborts, due]
    refine ⟨[], ?_⟩
    rw [List.append_nil, step_calling e phase, conclusion]
    cases concluded : e.concludes c.job calls.length call with
    | judged findings =>
      obtain ⟨verdict, follows, aborted⟩ := succeed_eq e call.stop (bill c call.outcome) findings
        { w with aborted := w.aborted || call.aborts }
      simp only [billed] at verdict follows aborted ⊢
      rw [verdict]
      exact ⟨⟨follows.calls, follows.filed, follows.store, follows.abortAt⟩, .judged passed asks concluded,
        aborted, by simp [MadeAt]⟩
    | failed kind why =>
      simp only [billed, giveUp]
      exact ⟨⟨(List.append_nil _).symm, (List.append_nil _).symm, rfl, rfl⟩, .failed passed asks concluded,
        rfl, by simp [MadeAt]⟩
    | again why left' =>
      have used := left_of_again (concludes.eq_def e c.job calls.length call ▸ concluded)
      simp only [billed]
      refine ⟨⟨(List.append_nil _).symm, (List.append_nil _).symm, rfl, rfl⟩, ?_, rfl, by simp [MadeAt]⟩
      have longer : (calls ++ [call]).length = calls.length + 1 := List.length_append
      refine .resting ?_ rfl rfl ?_ ?_
      · show e.Passed c.job c.started (calls ++ [call]) (call.stop + e.retry.delayAfter (calls ++ [call]).length)
        rw [longer]
        exact .more passed asks concluded
      · simp [Check.costOf]
      · rw [longer]
        show left' = e.retry.attempts - (calls.length + 1 + 1)
        omega

end Engine

end PolicyLint
