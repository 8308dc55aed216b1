import PolicyLint.Proofs.Run.Flight
import PolicyLint.Proofs.Run.Keys
import PolicyLint.Proofs.Run.Warm

/-!
# Runs that are aborted

From the moment at which a run is aborted no call starts. What the store answers is answered all the same,
a key that was not asked for yet is given up, and a completion that is still on its way counts.
-/

namespace PolicyLint

namespace Engine

variable {σ τ : Type} {e : Engine σ τ} {limit : Nat}

/-! ### Once aborted, always aborted -/

theorem isDue_later {i : Interrupt} {t t' n n' : Nat} (late : t ≤ t') (more : n ≤ n') (due : i.isDue t n = true) :
    i.isDue t' n' = true := by
  cases i with
  | atTime time => exact decide_eq_true (Nat.le_trans (of_decide_eq_true due) late)
  | afterCalls count => exact decide_eq_true (Nat.le_trans (of_decide_eq_true due) more)

theorem isAborted_later {w w' : World σ τ} {t t' : Nat} (abortAt : w'.abortAt = w.abortAt)
    (aborted : w.aborted = true → w'.aborted = true) (late : t ≤ t') (more : w.calls.length ≤ w'.calls.length)
    (stop : w.isAborted t = true) : w'.isAborted t' = true := by
  rw [World.isAborted, World.isOver, Bool.or_eq_true] at stop ⊢
  rcases stop with before | outside
  · exact Or.inl (aborted before)
  · refine Or.inr ?_
    rw [abortAt]
    rw [Option.any_eq_true] at outside ⊢
    obtain ⟨interrupt, at', due⟩ := outside
    exact ⟨interrupt, at', isDue_later late more due⟩

/-- What one event does to the calls and to the ways in which a run is aborted. -/
structure Goes (m m' : Moment σ τ) (made : List Call) : Prop where
  time : m.time ≤ m'.time
  abortAt : m'.world.abortAt = m.world.abortAt
  aborted : m.world.aborted = true → m'.world.aborted = true
  calls : m'.world.calls = m.world.calls ++ made
  going : ∀ call ∈ made, call.start = m.time ∧ m.world.isAborted m.time = false

theorem Goes.later {m m' : Moment σ τ} {made : List Call} (goes : Goes m m' made)
    (stop : m.world.isAborted m.time = true) : m'.world.isAborted m'.time = true := by
  refine isAborted_later goes.abortAt goes.aborted goes.time ?_ stop
  rw [goes.calls, List.length_append]
  exact Nat.le_add_right _ _

theorem Event.goes {m m' : Moment σ τ} (event : e.Event limit m m') : ∃ made, Goes m m' made := by
  cases event with
  | lookup key =>
    obtain ⟨_, aborted, abortAt, calls, _⟩ := lookup_alike e key m.world
    exact ⟨[], Nat.le_refl _, abortAt, fun before => aborted.trans before, by rw [calls, List.append_nil], by simp⟩
  | @start job keyed room =>
    obtain ⟨made, adds⟩ := start_adds e m.time job m.world
    exact ⟨made, Nat.le_refl _, adds.abortAt, adds.aborted, adds.calls, adds.going⟩
  | @step c others runs due =>
    obtain ⟨made, adds⟩ := step_adds e m.time c m.world
    exact ⟨made, Nat.le_refl _, adds.abortAt, adds.aborted, adds.calls, adds.going⟩
  | wait later early => exact ⟨[], later, rfl, id, (List.append_nil _).symm, by simp⟩
  | note notices => exact ⟨[], Nat.le_refl _, rfl, id, (List.append_nil _).symm, by simp⟩
  | save => exact ⟨[], Nat.le_refl _, rfl, id, (List.append_nil _).symm, by simp⟩

/-- No call starts from the moment on at which a run is aborted. -/
theorem Leads.halts {m m' : Moment σ τ} (leads : e.Leads limit m m') (stop : m.world.isAborted m.time = true) :
    m'.world.calls = m.world.calls := by
  have halted := leads.keeps
    (P := fun m' => m'.world.isAborted m'.time = true ∧ m'.world.calls = m.world.calls) ?_ ⟨stop, rfl⟩
  · exact halted.2
  · rintro m₁ m₂ ⟨stop', same⟩ event
    obtain ⟨made, goes⟩ := event.goes
    have none : made = [] := by
      apply List.eq_nil_iff_forall_not_mem.mpr
      intro call member
      have going := (goes.going call member).2
      rw [stop'] at going
      exact absurd going (by decide)
    refine ⟨goes.later stop', ?_⟩
    rw [goes.calls, none, List.append_nil, same]

theorem Leads.going {w : World σ τ} {m : Moment σ τ} (leads : e.Leads limit ⟨0, 0, w⟩ m) :
    ∀ call ∈ m.world.callsSince w, w.isAborted call.start = false := by
  have going := leads.keeps
    (P := fun m => m.world.calls = w.calls ++ m.world.callsSince w ∧
      m.world.abortAt = w.abortAt ∧ (w.aborted = true → m.world.aborted = true) ∧
      ∀ call ∈ m.world.callsSince w, w.isAborted call.start = false) ?_ ?_
  · exact going.2.2.2
  · rintro m₁ m₂ ⟨grown, abortAt, aborted, before⟩ event
    obtain ⟨made, goes⟩ := event.goes
    have since := callsSince_append grown goes.calls
    refine ⟨?_, goes.abortAt.trans abortAt, fun stop => goes.aborted (aborted stop), ?_⟩
    · rw [since, goes.calls, ← List.append_assoc, ← grown]
    · intro call member
      rw [since] at member
      rcases List.mem_append.mp member with old | new
      · exact before call old
      · obtain ⟨start, going⟩ := goes.going call new
        have longer : w.calls.length ≤ m₁.world.calls.length := by
          rw [grown, List.length_append]
          exact Nat.le_add_right _ _
        cases stop : w.isAborted call.start with
        | false => rfl
        | true =>
          rw [start] at stop
          rw [isAborted_later abortAt aborted (Nat.le_refl _) longer stop] at going
          exact absurd going (by decide)
  · refine ⟨?_, rfl, id, ?_⟩
    · rw [World.callsSince_self, List.append_nil]
    · rw [World.callsSince_self]
      simp

/-! ### What becomes of the tasks -/

def cancelledBefore (t : Task) : Failure := failureOf t.job .cancelled "Run aborted before the task started"

theorem After.of_no_calls {stopped : Nat → Prop} {job : Job} {v : Verdict} (after : e.After stopped job [] (.inr v)) :
    v.failures = [failureOf job .cancelled "Run aborted before the task started"] ∧ v.findings = [] ∧ v.calls = 0 := by
  generalize none : ([] : List Call) = calls at after
  generalize ended : (Sum.inr v : Progress) = p at after
  cases after with
  | resting => exact absurd ended (by simp)
  | calling => exact absurd ended (by simp)
  | judged => exact absurd none (by simp)
  | failed => exact absurd none (by simp)
  | cancelled passed stop =>
    obtain rfl := Sum.inr.inj ended
    rw [← none]
    exact ⟨rfl, rfl, rfl⟩

/-- What an abort makes of tasks, when some calls have begun and some verdicts are filed in the end. -/
structure Halted (tasks : List Task) (found : List (Option Verdict)) (verdicts : List Verdict) (begun : List Call)
    (filed : List (Key × Verdict)) : Prop where
  served : ∀ (i : Nat) (task : Task) (u : Verdict), tasks[i]? = some task → found[i]? = some (some u) →
    verdicts[i]? = some (u.servedTo task)
  unstarted : ∀ (i : Nat) (task : Task), tasks[i]? = some task → found[i]? = some none →
    Call.forKey task.key begun = [] → filedUnder task.key filed = [] ∧
      ∃ v, verdicts[i]? = some v ∧ v.failures = [cancelledBefore task] ∧ v.findings = [] ∧ v.calls = 0
  answered : ∀ call ∈ begun, ∀ completion, call.outcome = .ok completion →
    ∀ path rule findings, readCompletion completion.text path rule = .ok findings →
      ∃ j task v, FirstMissed tasks found j task ∧ task.key = call.key ∧ verdicts[j]? = some v ∧ v.failures = [] ∧
        v.hits = 0 ∧ v.misses = 1 ∧
        readCompletion completion.text task.file.path task.rule.name = .ok v.findings ∧
        filedUnder call.key filed = [(call.key, v)]

section Places

variable {stopped : Nat → Prop} {tasks : List Task} {w w' : World σ τ} {results : Key → Verdict}
  {verdicts : List Verdict}

theorem Ran.unstarted (ran : e.Ran stopped tasks w w' results verdicts) {i : Nat} {task : Task} (here : tasks[i]? = some task)
    (missed : (e.found tasks w.store)[i]? = some none) (quiet : Call.forKey task.key (w'.callsSince w) = []) :
    filedUnder task.key (w'.filedSince w) = [] ∧
      ∃ v, verdicts[i]? = some v ∧ v.failures = [cancelledBefore task] ∧ v.findings = [] ∧ v.calls = 0 := by
  obtain ⟨j, t, _, same, first⟩ := exists_firstMissed here missed
  obtain ⟨after, filed⟩ := ran.finished t.job (job_of_firstMissed (length_found e tasks w.store) first)
  dsimp only at after filed
  rw [same] at after filed
  rw [quiet] at after
  obtain ⟨failed, _, _⟩ := after.of_no_calls
  have unfiled : filedFor t.job (.inr (results task.key)) = [] := by
    rw [filedFor, failed]
    rfl
  refine ⟨filed.trans unfiled, ?_⟩
  rcases ran.cases here with ⟨u, served, _⟩ | ⟨leader, is⟩ | ⟨_, _, is⟩
  · rw [missed] at served
    exact absurd served (by simp)
  · have own := ran.checked leader
    rw [quiet] at own
    exact ⟨_, is, own.of_no_calls⟩
  · rw [Verdict.sharedWith_of_failures (by rw [failed]; simp), failed] at is
    exact ⟨_, is, rfl, rfl, rfl⟩

theorem Ran.answered (ran : e.Ran stopped tasks w w' results verdicts) {call : Call} (made : call ∈ w'.callsSince w)
    {completion : Completion} (brought : call.outcome = .ok completion) {path rule : String} {findings : List Finding}
    (read : readCompletion completion.text path rule = .ok findings) :
    ∃ j task v, FirstMissed tasks (e.found tasks w.store) j task ∧ task.key = call.key ∧ verdicts[j]? = some v ∧
      v.failures = [] ∧ v.hits = 0 ∧ v.misses = 1 ∧
      readCompletion completion.text task.file.path task.rule.name = .ok v.findings ∧
      filedUnder call.key (w'.filedSince w) = [(call.key, v)] := by
  obtain ⟨job, known, asks⟩ := ran.asks call made
  obtain ⟨j, task, rfl, first⟩ := firstMissed_of_job e known
  have own : call.key = task.key := asks.2.1
  have after := ran.checked first
  have filed := (ran.finished task.job known).2
  obtain ⟨judged, reads⟩ := after.accepted (Call.mem_forKey.mpr ⟨made, own⟩) brought read
  refine ⟨j, task, results task.key, first, own.symm, ran.checked_verdict first, judged, after.bills.hits,
    after.bills.misses, reads, ?_⟩
  rw [own]
  refine filed.trans ?_
  rw [filedFor, judged]
  rfl

end Places

/-- A first call that takes its time leaves the other jobs of a full group where they are. -/
theorem fill_of_busy {time : Nat} {g : Group} {job : Job} {w : World σ τ} (rest : List Job)
    (last : g.running.length + 1 = g.bound) (going : w.isAborted time = false)
    (busy : time < (e.callOf time job w.judge).stop) :
    (e.fill time g (job :: rest) w).2 =
      { w with
        judge := (e.judge.ask w.judge job.task.prompt job.task.model).2
        calls := w.calls ++ [e.callOf time job w.judge] } := by
  have full : ∀ (g : Group) (queue : List Job) (w : World σ τ), ¬g.running.length < g.bound →
      (e.fill time g queue w).2 = w := by
    intro g queue w full
    cases queue with
    | nil => rfl
    | cons job rest => rw [fill, if_neg full]
  rw [fill, if_pos (Nat.lt_of_succ_le (Nat.le_of_eq last)), launch, start, attempt_of_not_aborted e going,
    proceed_of_early e _ (Nat.not_le_of_lt busy)]
  refine full _ rest _ ?_
  simp [← last]

theorem openGroup_eq (e : Engine σ τ) (time bound : Nat) (tasks : List Task) (w : World σ τ) :
    e.openGroup time bound tasks w =
      e.fill time { slots := (e.assign [] tasks w).1, bound, queue := [] } (Group.jobsOf (e.assign [] tasks w).1)
        (e.assign [] tasks w).2 := rfl

/-- A group that may go on with one check opens with the first call of its first job, if that call takes its time. -/
theorem openGroup_of_busy {time : Nat} {tasks : List Task} {job : Job} {rest : List Job} {w : World σ τ}
    (jobs : Group.jobsOf (e.slotsFrom tasks w.store) = job :: rest) (going : w.isAborted time = false)
    (busy : time < (e.callOf time job w.judge).stop) :
    (e.openGroup time 1 tasks w).2.calls = w.calls ++ [e.callOf time job w.judge] ∧
      (e.openGroup time 1 tasks w).2.aborted = w.aborted ∧ (e.openGroup time 1 tasks w).2.abortAt = w.abortAt := by
  have alike := assign_alike e [] tasks w
  have going' := (alike.isAborted time).trans going
  obtain ⟨judge, aborted, abortAt, calls, _⟩ := alike
  rw [← judge] at busy
  rw [openGroup_eq, assign_slots, ← slotsFrom, jobs, fill_of_busy rest rfl going' busy, judge]
  exact ⟨by rw [calls], aborted, abortAt⟩

/-- From the moment at which a run is aborted, be it before its start, no call starts. Tasks that the store
answers are served, those with a key that was not asked for are cancelled and nothing is filed for them,
and what a call that has begun brings is judged and filed as ever. -/
theorem run_aborted (e : Engine σ τ) (tasks : List Task) {concurrency : Nat} (positive : 0 < concurrency)
    (w : World σ τ) :
    ∃ verdicts elapsed w', e.run tasks concurrency w = .ok ((verdicts, elapsed), w') ∧
      w'.calls = w.calls ++ w'.callsSince w ∧ w'.filed = w.filed ++ w'.filedSince w ∧
      w'.store = e.store.sets (w'.filedSince w) (e.assign [] tasks w).2.store ∧
      e.Leads concurrency ⟨0, 0, w⟩ ⟨elapsed, 0, w'⟩ ∧
      (∀ call ∈ w'.callsSince w, w.isAborted call.start = false) ∧
      ∀ m, e.Leads concurrency ⟨0, 0, w⟩ m → e.Leads concurrency m ⟨elapsed, 0, w'⟩ →
        m.world.isAborted m.time = true →
        w'.calls = m.world.calls ∧
          Halted tasks (e.found tasks w.store) verdicts (m.world.callsSince w) (w'.filedSince w) := by
  obtain ⟨verdicts, elapsed, w', results, ended, ran, stored, _⟩ := run_ran e tasks positive (stops_always w)
  have course := run_leads ended
  refine ⟨verdicts, elapsed, w', ended, ran.calls, ran.filed, stored, course, course.going, ?_⟩
  intro m first later stop
  have quiet := later.halts stop
  have begun : w'.callsSince w = m.world.callsSince w := by
    rw [World.callsSince, quiet, World.callsSince]
  refine ⟨quiet, ?_, ?_, ?_⟩
  · intro i task u here has
    rcases ran.cases here with ⟨v, served, is⟩ | ⟨⟨_, missed, _⟩, _⟩ | ⟨missed, _⟩
    · rw [has] at served
      obtain rfl := Option.some.inj (Option.some.inj served)
      exact is
    · rw [has] at missed
      exact absurd missed (by simp)
    · rw [has] at missed
      exact absurd missed (by simp)
  · intro i task here missed none
    rw [← begun] at none
    exact ran.unstarted here missed none
  · intro call member completion brought path rule findings read
    rw [← begun] at member
    exact ran.answered member brought read

/-- The store answers the first question, and the run is aborted between its first call and the start of the next
task, while that call is in flight. -/
theorem run_aborted_between_starts :
    let task : SourceFile → Task := fun file =>
      { file, rule := { name := "no-let", description := "Use const." }, model := {} }
    let known := task ⟨"a.ts", "let a;"⟩
    let asked := task ⟨"b.ts", "let b;"⟩
    let queued := task ⟨"c.ts", "let c;"⟩
    let store : Store Bool :=
      { get := fun used key => (.ok (if used then none else some { key, created := 0, verdict := {} }), true)
        set := fun used _ _ => (.ok (), used)
        flush := fun used => (.ok (), used) }
    let e : Engine Unit Bool :=
      { judge := .constant { delay := 5, outcome := .ok { text := "\x7b\"violations\": []\x7d" } }, store, retry := {} }
    let w : World Unit Bool := { judge := (), store := false, abortAt := some (.afterCalls 1) }
    ∃ verdicts elapsed w' call u v, e.run [known, asked, queued] 1 w = .ok ((verdicts, elapsed), w') ∧
      w'.calls = [call] ∧ call.key = asked.key ∧ call.start = 0 ∧ call.stop = 5 ∧
      verdicts[0]? = some (({} : Verdict).servedTo known) ∧
      verdicts[1]? = some u ∧ u.failures = [] ∧ u.findings = [] ∧ filedUnder asked.key w'.filed = [(asked.key, u)] ∧
      verdicts[2]? = some v ∧ v.failures = [cancelledBefore queued] ∧ filedUnder queued.key w'.filed = [] := by
  intro task known asked queued store e w
  have different : asked.key ≠ queued.key := Task.key_ne_of_content
  have read : readCompletion "\x7b\"violations\": []\x7d" asked.file.path asked.rule.name = .ok [] := by
    decide +kernel
  -- From here on the tasks are any three, so that nothing computes their keys.
  clear_value known asked queued
  have found : e.found [known, asked, queued] w.store = [some {}, none, none] := by
    simp [found, Store.answers, Store.verdictFor, e, store, w]
  have jobs : Group.jobsOf (e.slotsFrom [known, asked, queued] w.store) = [asked.job, queued.job] := by
    rw [slotsFrom, found]
    simp [slotsOf, Group.jobsOf, different.symm]
  obtain ⟨verdicts, elapsed, w', ended, _, _, _, _, _, halts⟩ :=
    run_aborted e [known, asked, queued] (by decide : 0 < 1) w
  obtain ⟨m, _, opened, before, after⟩ := run_opened e (by decide : 0 < 1) ended
  obtain ⟨flying, aborted, abortAt⟩ := openGroup_of_busy jobs rfl (Nat.succ_pos 4)
  rw [← opened] at flying aborted abortAt
  have stop : m.world.isAborted m.time = true := by
    rw [World.isAborted, World.isOver, flying, aborted, abortAt]
    rfl
  obtain ⟨quiet, halted⟩ := halts m before after stop
  rw [found] at halted
  have begun : m.world.callsSince w = [e.callOf 0 asked.job ()] := by
    rw [World.callsSince, flying]
    rfl
  rw [begun] at halted
  obtain ⟨j, leader, u, first, same, verdict, judged, _, _, findings, stored⟩ :=
    halted.answered _ List.mem_cons_self _ rfl asked.file.path asked.rule.name [] read
  have second : j = 1 ∧ leader = asked := by
    obtain ⟨here, missed, _⟩ := first
    rcases j with _ | _ | _ | _
    · exact absurd missed (by simp)
    · exact ⟨rfl, (Option.some.inj here).symm⟩
    · obtain rfl := Option.some.inj here
      exact absurd same.symm different
    · exact absurd here (by simp)
  obtain ⟨rfl, rfl⟩ := second
  have none : Call.forKey queued.key [e.callOf 0 leader.job ()] = [] := by
    refine Call.forKey_eq_nil fun call member => ?_
    rw [List.mem_singleton.mp member]
    exact different
  obtain ⟨unfiled, v, cancelled, failed, _, _⟩ := halted.unstarted 2 queued rfl rfl none
  rw [read] at findings
  exact ⟨verdicts, elapsed, w', _, u, v, ended, quiet.trans flying, rfl, rfl, rfl, halted.served 0 known {} rfl rfl,
    verdict, judged, (Except.ok.inj findings).symm, stored, cancelled, failed, unfiled⟩

end Engine

end PolicyLint
