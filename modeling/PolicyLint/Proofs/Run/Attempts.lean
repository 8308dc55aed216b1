import PolicyLint.Proofs.Review.Order

/-!
# Attempts

A judge answers the attempts at a task in turn. The first answer that is not a fault that may pass ends them, if it
comes before they are used up. `Attempted` says what the attempts come to, answer for answer, and `run_attempts` says
so of every run that nothing aborts.
-/

namespace PolicyLint

inductive Upshot where
  | accepted (findings : List Finding)
  | refused (why : String)
  /-- A fault that may pass. -/
  | passing (why : String)

def Upshot.ofOutcome (task : Task) : Except JudgeFault Completion → Upshot
  | .error (.permanent why) => .refused why
  | .error (.transient why) => .passing why
  | .ok completion =>
    match readCompletion completion.text task.file.path task.rule.name with
    | .ok findings => .accepted findings
    | .error why => .passing why

theorem Conclusion.ofOutcome_eq (task : Task) (attempts left : Nat) (outcome : Except JudgeFault Completion) :
    Conclusion.ofOutcome task attempts left outcome =
      match Upshot.ofOutcome task outcome with
      | .accepted findings => .judged findings
      | .refused why => .failed .permanent why
      | .passing why => Conclusion.ofTransient why attempts left := by
  unfold Conclusion.ofOutcome Upshot.ofOutcome
  cases outcome with
  | error fault => cases fault <;> rfl
  | ok completion =>
    dsimp only
    cases readCompletion completion.text task.file.path task.rule.name <;> rfl

namespace Retry

/-- What is received of an answer. One that takes longer than the timeout is not waited for. -/
def received (r : Retry) (a : Response) : Except JudgeFault Completion :=
  if r.timeout < a.delay then .error (.transient ("Backend call timed out after " ++ Duration.text r.timeout))
  else a.outcome

def upshot (r : Retry) (task : Task) (a : Response) : Upshot := Upshot.ofOutcome task (r.received a)

/-- The answers before a place do not end the attempts. -/
def PassBefore (r : Retry) (task : Task) (answers : Nat → Response) (k : Nat) : Prop :=
  ∀ i < k, ∃ why, r.upshot task (answers i) = .passing why

/-- Each call but the first one starts when the wait after the one before is over. -/
def Spaced (r : Retry) (calls : List Call) : Prop :=
  ∀ (n : Nat) (call next : Call), calls[n]? = some call → calls[n + 1]? = some next →
    next.start = call.stop + r.delayAfter (n + 1)

/-- What the attempts at a task come to when they get answers in turn. Tokens are counted in 64 bits. -/
structure Attempted (r : Retry) (task : Task) (answers : Nat → Response) (calls : List Call) (v : Verdict)
    (filed : List (Key × Verdict)) : Prop where
  accepted : ∀ (k : Nat) (findings : List Finding), k < r.attempts → r.PassBefore task answers k →
    r.upshot task (answers k) = .accepted findings →
      v.calls = k + 1 ∧ v.findings = findings ∧ v.failures = [] ∧ filed = [(task.key, v)]
  refused : ∀ (k : Nat) (why : String), k < r.attempts → r.PassBefore task answers k →
    r.upshot task (answers k) = .refused why →
      v.calls = k + 1 ∧ v.findings = [] ∧ v.failures = [Engine.failureOf task.job .permanent why] ∧ filed = []
  exhausted : ∀ why : String, r.PassBefore task answers r.attempts →
    r.upshot task (answers (r.attempts - 1)) = .passing why →
      v.calls = r.attempts ∧ v.findings = [] ∧ filed = [] ∧
        v.failures = [Engine.failureOf task.job .exhausted
          (why ++ " (gave up after " ++ toString r.attempts ++ " attempt(s))")]
  made : calls.length = v.calls
  retries : v.retries + 1 = v.calls
  promptTokens : v.promptTokens.toNat =
    total (fun heard => (Engine.promptTokensOf heard).toNat)
      ((List.range v.calls).map fun n => r.received (answers n)) % 2 ^ 64
  completionTokens : v.completionTokens.toNat =
    total (fun heard => (Engine.completionTokensOf heard).toNat)
      ((List.range v.calls).map fun n => r.received (answers n)) % 2 ^ 64
  stop : ∀ (n : Nat) (call : Call), calls[n]? = some call → call.stop = call.start + min (answers n).delay r.timeout
  spaced : r.Spaced calls

/-- What a verdict says when the last attempt meant this. -/
def Settles (r : Retry) (task : Task) (v : Verdict) : Upshot → Prop
  | .accepted findings => v.findings = findings ∧ v.failures = []
  | .refused why => v.findings = [] ∧ v.failures = [Engine.failureOf task.job .permanent why]
  | .passing why =>
    v.calls = r.attempts ∧ v.findings = [] ∧ v.failures = [Engine.failureOf task.job .exhausted
      (why ++ " (gave up after " ++ toString r.attempts ++ " attempt(s))")]

section Ending

variable {r : Retry} {task : Task} {answers : Nat → Response}

theorem exists_ending (waits : ¬r.PassBefore task answers r.attempts) :
    ∃ k < r.attempts, r.PassBefore task answers k ∧ ∀ why, r.upshot task (answers k) ≠ .passing why := by
  classical
  have some : ∃ i, i < r.attempts ∧ ∀ why, r.upshot task (answers i) ≠ .passing why := by
    simpa [PassBefore] using waits
  obtain ⟨inside, ends⟩ := Nat.find_spec some
  refine ⟨Nat.find some, inside, fun i less => ?_, ends⟩
  have earlier := Nat.find_min some less
  simpa [Nat.lt_trans less inside] using earlier

/-- The attempts stop at the first answer that ends them, or when they are used up. -/
theorem Attempted.ends {calls : List Call} {v : Verdict} {filed : List (Key × Verdict)}
    (attempted : r.Attempted task answers calls v filed) :
    ∃ k < r.attempts, v.calls = k + 1 ∧ r.PassBefore task answers k ∧
      r.Settles task v (r.upshot task (answers k)) := by
  have positive : 0 < r.attempts := Nat.le_max_right _ _
  by_cases waits : r.PassBefore task answers r.attempts
  · have last : r.attempts - 1 < r.attempts := Nat.sub_lt positive Nat.one_pos
    obtain ⟨why, passes⟩ := waits _ last
    obtain ⟨made, findings, _, failures⟩ := attempted.exhausted why waits passes
    refine ⟨r.attempts - 1, last, by rw [made, Nat.sub_add_cancel positive], fun i less => ?_, ?_⟩
    · exact waits i (Nat.lt_trans less last)
    · rw [passes]
      exact ⟨made, findings, failures⟩
  · obtain ⟨k, inside, before, ends⟩ := exists_ending waits
    cases upshot : r.upshot task (answers k) with
    | accepted findings =>
      obtain ⟨made, found, judged, _⟩ := attempted.accepted k findings inside before upshot
      exact ⟨k, inside, made, before, by rw [upshot]; exact ⟨found, judged⟩⟩
    | refused why =>
      obtain ⟨made, findings, failures, _⟩ := attempted.refused k why inside before upshot
      exact ⟨k, inside, made, before, by rw [upshot]; exact ⟨findings, failures⟩⟩
    | passing why => exact absurd upshot (ends why)

end Ending

theorem spaced_singleton (r : Retry) (call : Call) : r.Spaced [call] := by
  intro n first next _ there
  have inside := (List.getElem?_eq_some_iff.mp there).1
  exact absurd inside (Nat.not_lt.mpr (Nat.le_add_left 1 n))

theorem Spaced.append {r : Retry} {calls : List Call} {call next : Call} (spaced : r.Spaced (calls ++ [call]))
    (waits : next.start = call.stop + r.delayAfter (calls.length + 1)) : r.Spaced (calls ++ [call] ++ [next]) := by
  intro n first second here there
  have long : (calls ++ [call]).length = calls.length + 1 := List.length_append
  rcases Nat.lt_trichotomy (n + 1) (calls ++ [call]).length with before | last | behind
  · rw [List.getElem?_append_left before] at there
    rw [List.getElem?_append_left (Nat.lt_of_succ_lt before)] at here
    exact spaced n first second here there
  · obtain rfl : n = calls.length := by omega
    rw [← long, List.getElem?_concat_length] at there
    rw [List.getElem?_append_left (by omega), List.getElem?_concat_length] at here
    obtain rfl := Option.some.inj there
    obtain rfl := Option.some.inj here
    exact waits
  · rw [List.getElem?_eq_none (by rw [List.length_append, List.length_singleton]; exact behind)] at there
    cases there

end Retry

namespace Engine

variable {σ τ : Type} {e : Engine σ τ}

theorem settle_eq (e : Engine σ τ) (time : Nat) (a : Response) :
    (e.settle time a).1 = time + min a.delay e.retry.timeout ∧ (e.settle time a).2.2 = e.retry.received a := by
  unfold settle Retry.received
  split
  · rename_i early
    rw [if_neg (Nat.not_lt.mpr early), Nat.min_eq_left early]
    exact ⟨rfl, rfl⟩
  · rename_i late
    rw [if_pos (Nat.lt_of_not_le late), Nat.min_eq_right (Nat.le_of_not_le late)]
    exact ⟨rfl, rfl⟩

/-! ### Calls that follow one another -/

theorem Passed.spaced {job : Job} {started due : Nat} {calls : List Call} (passed : e.Passed job started calls due)
    {next : Call} (starts : next.start = due) : e.retry.Spaced (calls ++ [next]) := by
  induction passed generalizing next with
  | none => exact e.retry.spaced_singleton next
  | more before asks again ih => exact (ih rfl).append starts

theorem Passed.asks {job : Job} {started due : Nat} {calls : List Call} (passed : e.Passed job started calls due) :
    ∀ call ∈ calls, e.Asks job call.start call := by
  induction passed with
  | none => simp
  | more before asks again ih =>
    intro call member
    rcases List.mem_append.mp member with earlier | last
    · exact ih call earlier
    · rw [List.mem_singleton.mp last]
      exact asks

/-- Calls about a task get answers of the judge to its question. -/
theorem exists_gets (e : Engine σ τ) (s : σ) {task : Task} {calls : List Call}
    (asked : ∀ call ∈ calls, e.Asks task.job call.start call) :
    ∃ answers, (∀ n, ∃ s', answers n = (e.judge.ask s' task.prompt task.model).1) ∧ e.Gets answers calls := by
  have each : ∀ n : Nat, ∃ a, (∃ s', a = (e.judge.ask s' task.prompt task.model).1) ∧
      ∀ call : Call, calls[n]? = some call → e.settle call.start a = (call.stop, call.aborts, call.outcome) := by
    intro n
    cases there : calls[n]? with
    | none => exact ⟨_, ⟨s, rfl⟩, fun call none => nomatch none⟩
    | some call =>
      obtain ⟨_, _, prompt, model, s', settled⟩ := asked call (List.mem_of_getElem? there)
      rw [prompt, model] at settled
      refine ⟨_, ⟨s', rfl⟩, fun call' same => ?_⟩
      obtain rfl := Option.some.inj same
      exact settled
  choose answers judged settled using each
  exact ⟨answers, judged, settled⟩

theorem Gets.outcomes {answers : Nat → Response} {calls : List Call} (gets : e.Gets answers calls) :
    Hears (fun n => e.retry.received (answers n)) calls := by
  have same : (fun n => (e.settle 0 (answers n)).2.2) = fun n => e.retry.received (answers n) :=
    funext fun n => (e.settle_eq 0 (answers n)).2
  rw [← same]
  exact gets.hears

/-! ### What answers come to -/

section Answers

variable {task : Task} {answers : Nat → Response}

theorem meaning_eq (e : Engine σ τ) (task : Task) (answers : Nat → Response) (k : Nat) :
    e.meaning task (fun n => e.retry.received (answers n)) k =
      match e.retry.upshot task (answers k) with
      | .accepted findings => .judged findings
      | .refused why => .failed .permanent why
      | .passing why => Conclusion.ofTransient why (k + 1) (e.retry.attempts - (k + 1)) :=
  Conclusion.ofOutcome_eq task (k + 1) (e.retry.attempts - (k + 1)) (e.retry.received (answers k))

/-- The attempts end with the first answer that ends them. -/
theorem lastPlace_eq {k : Nat} (inside : k < e.retry.attempts) (before : e.retry.PassBefore task answers k)
    (ends : (e.meaning task (fun n => e.retry.received (answers n)) k).goesOn = false) :
    e.lastPlace task (fun n => e.retry.received (answers n)) = k := by
  refine (Nat.find_eq_iff _).mpr ⟨ends, fun i less => ?_⟩
  obtain ⟨why, passes⟩ := before i less
  obtain ⟨left, some⟩ : ∃ left, e.retry.attempts - (i + 1) = left + 1 := ⟨e.retry.attempts - (i + 2), by omega⟩
  rw [e.meaning_eq, passes, some]
  exact Bool.true_eq_false.mp

theorem hearing_accepted {k : Nat} {findings : List Finding} (inside : k < e.retry.attempts)
    (before : e.retry.PassBefore task answers k) (accepted : e.retry.upshot task (answers k) = .accepted findings) :
    e.hearing task (fun n => e.retry.received (answers n)) =
      { costHeard (fun n => e.retry.received (answers n)) k with findings } := by
  have means := e.meaning_eq task answers k
  rw [accepted] at means
  rw [hearing, lastPlace_eq inside before (by rw [means]; rfl), means]

theorem hearing_refused {k : Nat} {why : String} (inside : k < e.retry.attempts)
    (before : e.retry.PassBefore task answers k) (refused : e.retry.upshot task (answers k) = .refused why) :
    e.hearing task (fun n => e.retry.received (answers n)) =
      { costHeard (fun n => e.retry.received (answers n)) k with failures := [failureOf task.job .permanent why] } := by
  have means := e.meaning_eq task answers k
  rw [refused] at means
  rw [hearing, lastPlace_eq inside before (by rw [means]; rfl), means]

theorem hearing_exhausted {why : String} (before : e.retry.PassBefore task answers e.retry.attempts)
    (passes : e.retry.upshot task (answers (e.retry.attempts - 1)) = .passing why) :
    e.hearing task (fun n => e.retry.received (answers n)) =
      { costHeard (fun n => e.retry.received (answers n)) (e.retry.attempts - 1) with
        failures := [failureOf task.job .exhausted
          (why ++ " (gave up after " ++ toString e.retry.attempts ++ " attempt(s))")] } := by
  have positive : 1 ≤ e.retry.attempts := Nat.le_max_right _ _
  have last : e.retry.attempts - 1 + 1 = e.retry.attempts := Nat.sub_add_cancel positive
  have means := e.meaning_eq task answers (e.retry.attempts - 1)
  rw [passes, last, Nat.sub_self] at means
  have earlier : e.retry.PassBefore task answers (e.retry.attempts - 1) :=
    fun i less => before i (Nat.lt_of_lt_of_le less (Nat.sub_le _ _))
  rw [hearing, lastPlace_eq (Nat.sub_lt positive Nat.one_pos) earlier (by rw [means]; rfl), means]
  rfl

end Answers

theorem cost_hearing_eq (e : Engine σ τ) (task : Task) (outcomes : Outcomes) :
    (e.hearing task outcomes).cost = costHeard outcomes (e.lastPlace task outcomes) := by
  unfold hearing
  split <;> rfl

/-! ### Checks and runs -/

section Checks

variable {stopped : Nat → Prop} {task : Task} {calls : List Call} {v : Verdict}

theorem After.spaced (going : ∀ t, ¬stopped t) {job : Job} (after : e.After stopped job calls (.inr v)) :
    e.retry.Spaced calls := by
  cases after with
  | judged passed asks concluded => exact passed.spaced rfl
  | failed passed asks concluded => exact passed.spaced rfl
  | cancelled passed stop => exact absurd stop (going _)

theorem After.asks (going : ∀ t, ¬stopped t) {job : Job} (after : e.After stopped job calls (.inr v)) :
    ∀ call ∈ calls, e.Asks job call.start call := by
  have last : ∀ {before : List Call} {call : Call} {started due : Nat}, e.Passed job started before due →
      e.Asks job call.start call → ∀ call' ∈ before ++ [call], e.Asks job call'.start call' := by
    intro before call started due passed asks call' member
    rcases List.mem_append.mp member with earlier | same
    · exact passed.asks call' earlier
    · rw [List.mem_singleton.mp same]
      exact asks
  cases after with
  | judged passed asks concluded => exact last passed asks
  | failed passed asks concluded => exact last passed asks
  | cancelled passed stop => exact absurd stop (going _)

theorem After.attempted (going : ∀ t, ¬stopped t) (after : e.After stopped task.job calls (.inr v))
    {answers : Nat → Response} (gets : e.Gets answers calls) :
    e.retry.Attempted task answers calls v (filedFor task.job (.inr v)) := by
  have heard : v.untimed = e.hearing task fun n => e.retry.received (answers n) := after.hearing going gets.outcomes
  have cost : v.cost = costHeard (fun n => e.retry.received (answers n))
      (e.lastPlace task fun n => e.retry.received (answers n)) := by
    rw [← e.cost_hearing_eq task, ← heard]
    rfl
  have made : v.calls = (e.lastPlace task fun n => e.retry.received (answers n)) + 1 := congrArg Verdict.calls cost
  refine
    { accepted := ?_, refused := ?_, exhausted := ?_, made := after.bills.calls.symm, retries := ?_
      promptTokens := ?_, completionTokens := ?_, stop := ?_, spaced := after.spaced going }
  · intro k findings inside before accepted
    rw [hearing_accepted inside before accepted] at heard
    have judged : v.failures = [] := congrArg Verdict.failures heard
    refine ⟨congrArg Verdict.calls heard, congrArg Verdict.findings heard, judged, ?_⟩
    rw [filedFor, judged]
    rfl
  · intro k why inside before refused
    rw [hearing_refused inside before refused] at heard
    have failed : v.failures = [failureOf task.job .permanent why] := congrArg Verdict.failures heard
    refine ⟨congrArg Verdict.calls heard, congrArg Verdict.findings heard, failed, ?_⟩
    rw [filedFor, failed]
    rfl
  · intro why before passes
    rw [hearing_exhausted before passes] at heard
    have failed : v.failures = [failureOf task.job .exhausted _] := congrArg Verdict.failures heard
    have calls : v.calls = e.retry.attempts - 1 + 1 := congrArg Verdict.calls heard
    refine ⟨calls.trans (Nat.sub_add_cancel (Nat.le_max_right _ _)), congrArg Verdict.findings heard, ?_, failed⟩
    rw [filedFor, failed]
    rfl
  · rw [made]
    exact congrArg (fun u => u.retries + 1) cost
  · rw [made, ← toNat_total]
    exact congrArg (fun u => u.promptTokens.toNat) cost
  · rw [made, ← toNat_total]
    exact congrArg (fun u => u.completionTokens.toNat) cost
  · intro n call here
    have settled := congrArg Prod.fst (gets n call here)
    rw [(e.settle_eq call.start (answers n)).1] at settled
    exact settled.symm

/-- The attempts at a task whose key the store misses first come to what the answers of the judge to it say. -/
theorem Ran.attempted {tasks : List Task} {w w' : World σ τ} {results : Key → Verdict} {verdicts : List Verdict}
    (ran : e.Ran stopped tasks w w' results verdicts) (going : ∀ t, ¬stopped t) {i : Nat}
    (first : FirstMissed tasks (e.found tasks w.store) i task) :
    (∃ answers, (∀ n, ∃ s, answers n = (e.judge.ask s task.prompt task.model).1) ∧
      e.Gets answers (Call.forKey task.key (w'.callsSince w))) ∧
      ∀ answers, e.Gets answers (Call.forKey task.key (w'.callsSince w)) →
        e.retry.Attempted task answers (Call.forKey task.key (w'.callsSince w)) (results task.key)
          (filedUnder task.key (w'.filedSince w)) := by
  have after := ran.checked first
  have filed : filedUnder task.key (w'.filedSince w) = filedFor task.job (.inr (results task.key)) :=
    (ran.finished task.job (job_of_firstMissed (length_found e tasks w.store) first)).2
  refine ⟨e.exists_gets w.judge (after.asks going), fun answers gets => ?_⟩
  rw [filed]
  exact after.attempted going gets

end Checks

end Engine

end PolicyLint
