import PolicyLint.Prompt.Completion
import PolicyLint.Run.Engine

/-!
# Checks

A check is a task that is put to the judge. It alternates between calls and rests until an answer can be
read, a fault does not pass, the attempts are used up or the run is aborted. Every step uses up some of
its `work`.
-/

namespace PolicyLint

/-- A task for the judge and the key of its verdict. -/
structure Job where
  task : Task
  key : Key

inductive Phase where
  /-- An answer, which is settled when the call starts. -/
  | calling (aborts : Bool) (outcome : Except JudgeFault Completion)
  /-- The next attempt. -/
  | resting

/-- A check that has started. -/
structure Check where
  job : Job
  started : Nat
  /-- What the check has cost so far. -/
  cost : Verdict
  /-- The attempts left after the current one, or after the one that is waited for. -/
  left : Nat
  phase : Phase
  /-- When the wait is over. -/
  due : Nat

/-- What an answer means. -/
inductive Conclusion where
  | judged (findings : List Finding)
  | failed (kind : FailureKind) (why : String)
  /-- Another attempt, after which some are left. -/
  | again (why : String) (left : Nat)
  deriving DecidableEq, Repr

namespace Conclusion

def ofTransient (why : String) (attempts : Nat) : (left : Nat) → Conclusion
  | 0 => .failed .exhausted (why ++ " (gave up after " ++ toString attempts ++ " attempt(s))")
  | left + 1 => .again why left

/-- What an outcome means for a task after some attempts, when some are left. An answer that cannot be
read may pass. -/
def ofOutcome (task : Task) (attempts left : Nat) :
    Except JudgeFault Completion → Conclusion
  | .error (.permanent why) => .failed .permanent why
  | .error (.transient why) => ofTransient why attempts left
  | .ok completion =>
    match readCompletion completion.text task.file.path task.rule.name with
    | .ok findings => .judged findings
    | .error why => ofTransient why attempts left

end Conclusion

namespace Check

def initialCost : Verdict := { checks := 1, misses := 1 }

/-- The steps that a check can still take. -/
def work (c : Check) : Nat :=
  match c.phase with
  | .calling _ _ => 2 * c.left + 1
  | .resting => 2 * c.left + 2

end Check

abbrev Progress := Check ⊕ Verdict

namespace Engine

variable {σ τ : Type}

/-- What a call brings and when. An answer that takes too long is a fault that may pass. -/
def settle (e : Engine σ τ) (time : Nat) (r : Response) :
    Nat × Bool × Except JudgeFault Completion :=
  if r.delay ≤ e.retry.timeout then (time + r.delay, r.aborts, r.outcome)
  else
    (time + e.retry.timeout, false,
      .error (.transient ("Backend call timed out after " ++ Duration.text e.retry.timeout)))

def succeed (e : Engine σ τ) (time : Nat) (c : Check) (findings : List Finding)
    (w : World σ τ) : Verdict × World σ τ :=
  let v := { c.cost with findings, latency := time - c.started }
  let (stored, store) := e.store.set w.store c.job.key v
  let w := { w with store, filed := w.filed ++ [(c.job.key, v)] }
  match stored with
  | .ok () => (v, w)
  | .error fault => (v, w.note (.storingFailed fault))

def giveUp (time : Nat) (c : Check) (kind : FailureKind) (why : String)
    (w : World σ τ) : Verdict × World σ τ :=
  let path := c.job.task.file.path
  let rule := c.job.task.rule.name
  ({ c.cost with
      failures := c.cost.failures ++ [{ rule, path, message := why, kind }]
      latency := time - c.started },
    w.note (.unjudged path rule why))

def abortedWhy (attempts : Nat) : String :=
  if attempts = 0 then "Run aborted before the task started"
  else "Run aborted after " ++ toString attempts ++ " attempt(s)"

/-- The next attempt of a check, unless the run is aborted. -/
def attempt (e : Engine σ τ) (time : Nat) (c : Check) (w : World σ τ) : Progress × World σ τ :=
  if w.isAborted time then
    let (v, w) := giveUp time c .cancelled (abortedWhy c.cost.calls) w
    (.inr v, w)
  else
    let prompt := c.job.task.prompt
    let model := c.job.task.model
    let (response, judge) := e.judge.ask w.judge prompt model
    let (due, aborts, outcome) := e.settle time response
    (.inl
        { c with
          cost := { c.cost with calls := c.cost.calls + 1 }
          phase := .calling aborts outcome
          due },
      { w with
        judge
        calls := w.calls ++
          [{ start := time, stop := due, key := c.job.key, prompt, model, aborts, outcome }] })

def start (e : Engine σ τ) (time : Nat) (job : Job) (w : World σ τ) : Progress × World σ τ :=
  e.attempt time
    { job, started := time, cost := Check.initialCost, left := e.retry.attempts - 1,
      phase := .resting, due := time }
    w

def bill (c : Check) : Except JudgeFault Completion → Check
  | .ok completion =>
    { c with
      cost :=
        { c.cost with
          promptTokens := c.cost.promptTokens + completion.promptTokens
          completionTokens := c.cost.completionTokens + completion.completionTokens } }
  | .error _ => c

/-- What follows when the wait of a check is over. -/
def step (e : Engine σ τ) (time : Nat) (c : Check) (w : World σ τ) : Progress × World σ τ :=
  match c.phase with
  | .resting => e.attempt time c w
  | .calling aborts outcome =>
    let w := { w with aborted := w.aborted || aborts }
    let task := c.job.task
    let c := bill c outcome
    match Conclusion.ofOutcome task c.cost.calls c.left outcome with
    | .judged findings =>
      let (v, w) := e.succeed time c findings w
      (.inr v, w)
    | .failed kind why =>
      let (v, w) := giveUp time c kind why w
      (.inr v, w)
    | .again why left =>
      let delay := e.retry.delayAfter c.cost.calls
      (.inl
          { c with
            cost := { c.cost with retries := c.cost.retries + 1 }
            left, phase := .resting, due := time + delay },
        w.note
          (.retrying c.cost.calls e.retry.attempts task.file.path task.rule.name delay why))

end Engine

/-! ### Every step uses up work -/

namespace Engine

variable {σ τ : Type}

def workOf : Progress → Nat
  | .inl c => c.work
  | .inr _ => 0

theorem workOf_attempt (e : Engine σ τ) (time : Nat) (c : Check) (w : World σ τ) :
    workOf (e.attempt time c w).1 ≤ 2 * c.left + 1 := by
  unfold attempt
  split
  · simp [workOf]
  · simp [workOf, Check.work]

theorem workOf_start (e : Engine σ τ) (time : Nat) (job : Job) (w : World σ τ) :
    workOf (e.start time job w).1 < 2 * e.retry.attempts := by
  have bound := workOf_attempt e time
    { job, started := time, cost := Check.initialCost, left := e.retry.attempts - 1,
      phase := .resting, due := time } w
  have positive : 1 ≤ e.retry.attempts := Nat.le_max_right _ _
  unfold start
  simp only at bound
  omega

theorem left_of_again {task : Task} {attempts left : Nat} {outcome : Except JudgeFault Completion}
    {why : String} {next : Nat}
    (concluded : Conclusion.ofOutcome task attempts left outcome = .again why next) :
    next + 1 = left := by
  have transient : ∀ {why' : String}, Conclusion.ofTransient why' attempts left = .again why next →
      next + 1 = left := by
    intro why' h
    cases left with
    | zero => simp [Conclusion.ofTransient] at h
    | succ n =>
      simp only [Conclusion.ofTransient, Conclusion.again.injEq] at h
      omega
  unfold Conclusion.ofOutcome at concluded
  split at concluded
  · simp at concluded
  · exact transient concluded
  · split at concluded
    · simp at concluded
    · exact transient concluded

theorem workOf_step (e : Engine σ τ) (time : Nat) (c : Check) (w : World σ τ) :
    workOf (e.step time c w).1 < c.work := by
  have billed : ∀ outcome, (bill c outcome).left = c.left := by
    intro outcome
    cases outcome <;> rfl
  unfold step
  split
  next resting =>
    have bound := workOf_attempt e time c w
    simp only [Check.work, resting]
    omega
  next aborts outcome calling =>
    simp only [Check.work, calling]
    split
    · simp [workOf]
    · simp [workOf]
    next why left concluded =>
      have used := left_of_again concluded
      rw [billed] at used
      simp only [workOf, Check.work]
      omega

/-! ### Checks go on until they have to wait -/

/-- An answer that is there at once, like a rest that takes no time, is no reason to let another check go
first. -/
def proceed (e : Engine σ τ) (time : Nat) : Progress → World σ τ → Progress × World σ τ
  | .inr v, w => (.inr v, w)
  | .inl c, w =>
    if c.due ≤ time then e.proceed time (e.step time c w).1 (e.step time c w).2 else (.inl c, w)
  termination_by p => workOf p
  decreasing_by exact workOf_step e time c w

/-- A job from its first attempt until it has to wait. -/
def launch (e : Engine σ τ) (time : Nat) (job : Job) (w : World σ τ) : Progress × World σ τ :=
  e.proceed time (e.start time job w).1 (e.start time job w).2

theorem proceed_inr (e : Engine σ τ) (time : Nat) (v : Verdict) (w : World σ τ) :
    e.proceed time (.inr v) w = (.inr v, w) := by
  rw [proceed]

theorem proceed_of_due (e : Engine σ τ) {time : Nat} {c : Check} (w : World σ τ) (due : c.due ≤ time) :
    e.proceed time (.inl c) w = e.proceed time (e.step time c w).1 (e.step time c w).2 := by
  rw [proceed, if_pos due]

theorem proceed_of_early (e : Engine σ τ) {time : Nat} {c : Check} (w : World σ τ) (early : ¬c.due ≤ time) :
    e.proceed time (.inl c) w = (.inl c, w) := by
  rw [proceed, if_neg early]

/-- What each step of a check keeps, the check keeps until it has to wait. -/
theorem proceed_keeps {e : Engine σ τ} {time : Nat} {P : Progress → World σ τ → Prop}
    (step : ∀ {c : Check} {w : World σ τ}, c.due ≤ time → P (.inl c) w → P (e.step time c w).1 (e.step time c w).2)
    {p : Progress} {w : World σ τ} (has : P p w) : P (e.proceed time p w).1 (e.proceed time p w).2 := by
  induction steps : workOf p using Nat.strongRecOn generalizing p w with
  | ind n ih =>
    cases p with
    | inr v =>
      rw [proceed_inr]
      exact has
    | inl c =>
      by_cases due : c.due ≤ time
      · rw [proceed_of_due e w due]
        exact ih _ (steps ▸ workOf_step e time c w) (step due has) rfl
      · rw [proceed_of_early e w due]
        exact has

theorem workOf_proceed_le (e : Engine σ τ) (time : Nat) (p : Progress) (w : World σ τ) :
    workOf (e.proceed time p w).1 ≤ workOf p :=
  proceed_keeps (P := fun p' _ => workOf p' ≤ workOf p)
    (fun {c w} _ before => Nat.le_trans (Nat.le_of_lt (workOf_step e time c w)) before) (Nat.le_refl _)

theorem workOf_proceed_lt (e : Engine σ τ) {time : Nat} {c : Check} (w : World σ τ) (due : c.due ≤ time) :
    workOf (e.proceed time (.inl c) w).1 < c.work := by
  rw [proceed_of_due e w due]
  exact Nat.lt_of_le_of_lt (workOf_proceed_le e time _ _) (workOf_step e time c w)

theorem workOf_launch (e : Engine σ τ) (time : Nat) (job : Job) (w : World σ τ) :
    workOf (e.launch time job w).1 < 2 * e.retry.attempts :=
  Nat.lt_of_le_of_lt (workOf_proceed_le e time _ _) (workOf_start e time job w)

end Engine

end PolicyLint
