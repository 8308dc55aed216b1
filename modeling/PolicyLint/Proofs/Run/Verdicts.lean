import PolicyLint.Proofs.Run.Record
import PolicyLint.Proofs.Verdict

/-!
# The verdicts of a run

`run_ran` says what a run of tasks comes to: a task that the store answers is served, the first task that
misses a key is checked, and the others with that key share its verdict. The rest of the module says what
that means for a checked task and for the task at a place.
-/

namespace PolicyLint

def Judge.Calm {σ : Type} (judge : Judge σ) : Prop :=
  ∀ (s : σ) (prompt : Prompt) (model : Model), (judge.ask s prompt model).1.aborts = false

namespace Engine

variable {σ τ : Type} {e : Engine σ τ} {stopped : Nat → Prop}

/-! ### Finished checks -/

section Finished

variable {job : Job} {calls : List Call} {v : Verdict}

structure Bills (calls : List Call) (v : Verdict) : Prop where
  checks : v.checks = 1
  hits : v.hits = 0
  misses : v.misses = 1
  promptTokens : v.promptTokens = total Call.promptTokens calls
  completionTokens : v.completionTokens = total Call.completionTokens calls
  calls : v.calls = calls.length

theorem After.bills (after : e.After stopped job calls (.inr v)) : Bills calls v := by
  cases after with
  | judged _ _ _ => exact ⟨rfl, rfl, rfl, rfl, rfl, rfl⟩
  | failed _ _ _ => exact ⟨rfl, rfl, rfl, rfl, rfl, rfl⟩
  | cancelled _ _ => exact ⟨rfl, rfl, rfl, rfl, rfl, rfl⟩

/-- A finished check has one failure, or the findings of the completion that came last. -/
theorem After.judged_or_failed (after : e.After stopped job calls (.inr v)) :
    (∃ kind why, v.failures = [failureOf job kind why] ∧ v.findings = []) ∨
      v.failures = [] ∧ ∃ call ∈ calls, e.Asks job call.start call ∧ ∃ completion, call.outcome = .ok completion ∧
        readCompletion completion.text job.task.file.path job.task.rule.name = .ok v.findings := by
  cases after with
  | @judged calls call started findings passed asks concluded =>
    refine Or.inr ⟨rfl, call, List.mem_append_right _ List.mem_cons_self, asks, ?_⟩
    unfold concludes Conclusion.ofOutcome at concluded
    cases outcome : call.outcome with
    | error fault =>
      rw [outcome] at concluded
      cases fault with
      | permanent why => exact absurd concluded (by simp)
      | transient why =>
        dsimp only [Conclusion.ofTransient] at concluded
        split at concluded
        · exact absurd concluded (by simp)
        · exact absurd concluded (by simp)
    | ok completion =>
      rw [outcome] at concluded
      dsimp only at concluded
      refine ⟨completion, rfl, ?_⟩
      split at concluded
      · rename_i findings' read
        rw [read]
        exact congrArg Except.ok (Conclusion.judged.inj concluded)
      · dsimp only [Conclusion.ofTransient] at concluded
        split at concluded
        · exact absurd concluded (by simp)
        · exact absurd concluded (by simp)
  | @failed calls call started kind why passed asks concluded => exact Or.inl ⟨kind, why, rfl, rfl⟩
  | cancelled passed stop => exact Or.inl ⟨.cancelled, _, rfl, rfl⟩

theorem After.speaksOf (after : e.After stopped job calls (.inr v)) :
    v.SpeaksOf job.task.file.path job.task.rule.name := by
  rcases after.judged_or_failed with ⟨kind, why, failures, findings⟩ | ⟨failures, call, _, _, completion, _, read⟩
  · constructor
    · rw [findings]
      simp
    · rw [failures]
      intro f member
      rw [List.mem_singleton.mp member]
      exact ⟨rfl, rfl⟩
  · constructor
    · exact speaksOf_readCompletion read
    · rw [failures]
      simp

end Finished

/-! ### Whole runs -/

def slotsFrom (e : Engine σ τ) (tasks : List Task) (t : τ) : List Slot := slotsOf [] tasks (e.found tasks t)

/-- What tasks come to in a run from one world to another. Each job of the run is finished with a
result, and all calls and filed verdicts are its own. -/
structure Ran (e : Engine σ τ) (stopped : Nat → Prop) (tasks : List Task) (w w' : World σ τ)
    (results : Key → Verdict) (verdicts : List Verdict) : Prop where
  verdicts : verdicts = (e.slotsFrom tasks w.store).map (verdictOf results)
  finished : ∀ job ∈ Group.jobsOf (e.slotsFrom tasks w.store),
    e.After stopped job (Call.forKey job.key (w'.callsSince w)) (.inr (results job.key)) ∧
      filedUnder job.key (w'.filedSince w) = filedFor job (.inr (results job.key))
  calls : w'.calls = w.calls ++ w'.callsSince w
  filed : w'.filed = w.filed ++ w'.filedSince w
  asks : ∀ call ∈ w'.callsSince w, ∃ job ∈ Group.jobsOf (e.slotsFrom tasks w.store), e.Asks job call.start call
  sources : ∀ p ∈ w'.filedSince w, ∃ job ∈ Group.jobsOf (e.slotsFrom tasks w.store), job.key = p.1

theorem since_of_alike {w w₀ : World σ τ} (alike : Alike w w₀) (w' : World σ τ) :
    w'.callsSince w₀ = w'.callsSince w ∧ w'.filedSince w₀ = w'.filedSince w := by
  obtain ⟨_, _, _, calls, filed⟩ := alike
  exact ⟨by rw [World.callsSince, calls, World.callsSince], by rw [World.filedSince, filed, World.filedSince]⟩

theorem Stops.of_alike {w w₀ : World σ τ} (alike : Alike w w₀) (stops : e.Stops stopped w) : e.Stops stopped w₀ :=
  ⟨fun t n past => stops.begun t n (alike.isOver t n ▸ past), stops.called⟩

theorem stops_always (w : World σ τ) : e.Stops (fun _ => True) w :=
  ⟨fun _ _ _ => trivial, fun _ _ _ _ _ _ => trivial⟩

theorem stops_never (calm : e.judge.Calm) {w : World σ τ} (going : w.aborted = false)
    (unlimited : w.abortAt = none) : e.Stops (fun _ => False) w where
  begun t n stop := by
    rw [World.isOver, going, unlimited] at stop
    exact absurd stop (by simp)
  called job call asks aborts t _ := by
    obtain ⟨_, _, _, _, s, settled⟩ := asks
    have same := congrArg (fun x => x.2.1) settled
    dsimp only at same
    rw [aborts] at same
    unfold Engine.settle at same
    split at same
    · rw [calm] at same
      exact absurd same (by simp)
    · exact absurd same (by simp)

/-- A run of tasks ends, and every task comes to a verdict. -/
theorem run_ran (e : Engine σ τ) (tasks : List Task) {concurrency : Nat} {w : World σ τ} (some : 0 < concurrency)
    (stops : e.Stops stopped w) :
    ∃ verdicts elapsed w' results, e.run tasks concurrency w = .ok ((verdicts, elapsed), w') ∧
      e.Ran stopped tasks w w' results verdicts ∧
      w'.store = e.store.sets (w'.filedSince w) (e.assign [] tasks w).2.store ∧
      ∀ t n, elapsed ≤ t → w'.isOver t n = true → stopped t := by
  have alike := assign_alike e [] tasks w
  have fresh : ∀ job ∈ Group.jobsOf (e.assign [] tasks w).1,
      e.Stands stopped (· ∈ Group.jobsOf (e.slotsFrom tasks w.store)) (e.assign [] tasks w).2 job .queued
        (e.assign [] tasks w).2 := by
    intro job member
    refine ⟨?_, ?_, ?_⟩
    · rw [assign_slots] at member
      exact member
    · rw [World.callsSince_self]
      rfl
    · rw [World.filedSince_self]
      rfl
  have waits : ∀ t ∈ tasks, e.Stands stopped (· ∈ Group.jobsOf (e.slotsFrom tasks w.store)) (e.assign [] tasks w).2
      t.job .waiting (e.assign [] tasks w).2 := by
    intro t _
    refine ⟨?_, ?_⟩
    · rw [World.callsSince_self]
      rfl
    · rw [World.filedSince_self]
      rfl
  obtain ⟨verdicts, elapsed, w', ran, recorded, settled⟩ := run_keeps
    (record_upkeep (stops.of_alike alike)) (Q := fun tasks' found => tasks' = tasks ∧ found = e.found tasks w.store)
    some (Recorded.refl (stops.of_alike alike)) ⟨rfl, rfl⟩ fresh waits
  obtain ⟨calls, filed⟩ := since_of_alike alike w'
  obtain ⟨found, results, _, ⟨_, rfl⟩, same, ended, _⟩ := settled
  refine ⟨verdicts, elapsed, w', results, ran, ⟨same, ?_, ?_, ?_, ?_, ?_⟩, ?_, recorded.stop⟩
  · intro job member
    obtain ⟨_, after, stored⟩ := ended job member
    rw [calls] at after
    rw [filed] at stored
    exact ⟨after, stored⟩
  · rw [← calls, recorded.calls, alike.2.2.2.1]
  · rw [← filed, recorded.filed, alike.2.2.2.2]
  · rw [← calls]
    exact recorded.asks
  · rw [← filed]
    exact recorded.sources
  · rw [← filed]
    exact recorded.store

theorem run_pos {tasks : List Task} {concurrency : Nat} {w : World σ τ} {result : (List Verdict × Nat) × World σ τ}
    (ended : e.run tasks concurrency w = .ok result) : 0 < concurrency := by
  apply Nat.pos_of_ne_zero
  intro zero
  rw [run, if_pos zero] at ended
  exact absurd ended (by simp)

theorem ran_of_run {tasks : List Task} {concurrency elapsed : Nat} {w w' : World σ τ} {verdicts : List Verdict}
    (stops : e.Stops stopped w) (ended : e.run tasks concurrency w = .ok ((verdicts, elapsed), w')) :
    ∃ results, e.Ran stopped tasks w w' results verdicts ∧ ∀ t n, elapsed ≤ t → w'.isOver t n = true → stopped t := by
  obtain ⟨_, _, _, results, ended', ran, _, later⟩ := run_ran e tasks (run_pos ended) stops
  obtain ⟨same, rfl⟩ := Prod.mk.inj (Except.ok.inj (ended.symm.trans ended'))
  obtain ⟨rfl, rfl⟩ := Prod.mk.inj same
  exact ⟨results, ran, later⟩

/-! ### The task at a place -/

/-- The store misses the key of a task for the first time at a place. -/
def FirstMissed (tasks : List Task) (found : List (Option Verdict)) (i : Nat) (task : Task) : Prop :=
  tasks[i]? = some task ∧ found[i]? = some none ∧
    ∀ (j : Nat) (t : Task), j < i → tasks[j]? = some t → t.key = task.key → found[j]? ≠ some none

theorem exists_firstMissed {tasks : List Task} {found : List (Option Verdict)} {i : Nat} {task : Task}
    (here : tasks[i]? = some task) (missed : found[i]? = some none) :
    ∃ j t, j ≤ i ∧ t.key = task.key ∧ FirstMissed tasks found j t := by
  induction i using Nat.strongRecOn generalizing task with
  | ind i ih =>
    by_cases earlier : ∃ (j : Nat) (t : Task),
        j < i ∧ tasks[j]? = some t ∧ t.key = task.key ∧ found[j]? = some none
    · obtain ⟨j, t, less, there, same, missed'⟩ := earlier
      obtain ⟨k, t', before, same', first⟩ := ih j less there missed'
      exact ⟨k, t', Nat.le_trans before (Nat.le_of_lt less), same'.trans same, first⟩
    · refine ⟨i, task, Nat.le_refl i, rfl, here, missed, ?_⟩
      intro j t less there same missed'
      exact earlier ⟨j, t, less, there, same, missed'⟩

theorem mem_missedKeys_take {tasks : List Task} {found : List (Option Verdict)} {i : Nat} {key : Key} :
    key ∈ missedKeys (tasks.take i) (found.take i) ↔
      ∃ (j : Nat) (t : Task), j < i ∧ tasks[j]? = some t ∧ found[j]? = some none ∧ t.key = key := by
  rw [mem_missedKeys]
  constructor
  · rintro ⟨j, t, there, missed, same⟩
    rw [List.getElem?_take] at there missed
    split at there
    · rename_i less
      rw [if_pos less] at missed
      exact ⟨j, t, less, there, missed, same⟩
    · exact absurd there (by simp)
  · rintro ⟨j, t, less, there, missed, same⟩
    refine ⟨j, t, ?_, ?_, same⟩
    · rw [List.getElem?_take, if_pos less]
      exact there
    · rw [List.getElem?_take, if_pos less]
      exact missed

/-- The slot at a place: its task is served, or the first one that misses its key, or has such a task before it. -/
theorem slotsOf_cases {tasks : List Task} {found : List (Option Verdict)} (long : found.length = tasks.length) {i : Nat}
    {task : Task} (here : tasks[i]? = some task) :
    (∃ v, found[i]? = some (some v) ∧
        (slotsOf [] tasks found)[i]? = some { task, key := task.key, origin := .served v }) ∨
      (FirstMissed tasks found i task ∧
        (slotsOf [] tasks found)[i]? = some { task, key := task.key, origin := .checked }) ∨
      (found[i]? = some none ∧
        (∃ j t', j < i ∧ t'.key = task.key ∧ FirstMissed tasks found j t') ∧
        (slotsOf [] tasks found)[i]? = some { task, key := task.key, origin := .shared }) := by
  have inside : i < found.length := by
    rw [long]
    exact (List.getElem?_eq_some_iff.mp here).1
  have has : found[i]? = some found[i] := List.getElem?_eq_getElem inside
  obtain ⟨before, members, slot⟩ := slotsOf_getElem? [] here has
  cases answer : found[i] with
  | some v =>
    rw [answer] at has slot
    exact Or.inl ⟨v, has, slot⟩
  | none =>
    rw [answer] at has slot
    refine Or.inr ?_
    by_cases seen : task.key ∈ missedKeys (tasks.take i) (found.take i)
    · have contained : before.contains task.key = true := by
        rw [List.contains_iff_mem, members]
        exact Or.inr seen
      rw [originOf, if_pos contained] at slot
      obtain ⟨j, t', less, there, missed, same⟩ := mem_missedKeys_take.mp seen
      obtain ⟨k, first, early, same', isFirst⟩ := exists_firstMissed there missed
      exact Or.inr ⟨has, ⟨k, first, Nat.lt_of_le_of_lt early less, same'.trans same, isFirst⟩, slot⟩
    · have absent : ¬before.contains task.key = true := by
        rw [List.contains_iff_mem, members]
        rintro (none | there)
        · exact absurd none (by simp)
        · exact seen there
      rw [originOf, if_neg absent] at slot
      refine Or.inl ⟨⟨here, has, ?_⟩, slot⟩
      intro j t' less there same missed
      exact seen (mem_missedKeys_take.mpr ⟨j, t', less, there, missed, same⟩)

theorem job_of_firstMissed {tasks : List Task} {found : List (Option Verdict)} (long : found.length = tasks.length)
    {i : Nat} {task : Task} (first : FirstMissed tasks found i task) :
    task.job ∈ Group.jobsOf (slotsOf [] tasks found) := by
  obtain ⟨here, missed, unseen⟩ := first
  rcases slotsOf_cases long here with ⟨v, has, _⟩ | ⟨_, slot⟩ | ⟨_, ⟨j, t', less, same, there, missed', _⟩, _⟩
  · rw [missed] at has
    exact absurd has (by simp)
  · exact mem_jobsOf.mpr ⟨_, List.mem_of_getElem? slot, rfl, rfl⟩
  · exact absurd missed' (unseen j t' less there same)

theorem task_of_slot (e : Engine σ τ) {tasks : List Task} {t : τ} {i : Nat} {s : Slot}
    (slot : (e.slotsFrom tasks t)[i]? = some s) : tasks[i]? = some s.task := by
  rw [← slotsOf_tasks [] (length_found e tasks t), List.getElem?_map]
  show Option.map Slot.task (e.slotsFrom tasks t)[i]? = some s.task
  rw [slot]
  rfl

/-- Every job is the first task that misses its key. -/
theorem firstMissed_of_job (e : Engine σ τ) {tasks : List Task} {t : τ} {job : Job}
    (member : job ∈ Group.jobsOf (e.slotsFrom tasks t)) :
    ∃ i task, job = task.job ∧ FirstMissed tasks (e.found tasks t) i task := by
  obtain ⟨s, slot, checked, rfl⟩ := mem_jobsOf.mp member
  obtain ⟨i, inside, here⟩ := List.mem_iff_getElem.mp slot
  have slot? : (e.slotsFrom tasks t)[i]? = some s := by rw [List.getElem?_eq_getElem inside, here]
  have task? := e.task_of_slot slot?
  have key : s.key = s.task.key := (key_of_mem_slotsOf slot).1
  refine ⟨i, s.task, by rw [key], ?_⟩
  rcases slotsOf_cases (length_found e tasks t) task? with ⟨v, _, served⟩ | ⟨first, _⟩ | ⟨_, _, shared⟩
  · rw [Option.some.inj (slot?.symm.trans served)] at checked
    exact absurd checked (by simp)
  · exact first
  · rw [Option.some.inj (slot?.symm.trans shared)] at checked
    exact absurd checked (by simp)

section Places

variable {tasks : List Task} {w w' : World σ τ} {results : Key → Verdict} {verdicts : List Verdict}

theorem Ran.length (ran : e.Ran stopped tasks w w' results verdicts) : verdicts.length = tasks.length := by
  have same := congrArg List.length (slotsOf_tasks [] (length_found e tasks w.store))
  rw [List.length_map] at same
  rw [ran.verdicts, List.length_map]
  exact same

/-- A task is served, or checked as the first one that misses its key, or shares the verdict of that one. -/
theorem Ran.cases (ran : e.Ran stopped tasks w w' results verdicts) {i : Nat} {task : Task}
    (here : tasks[i]? = some task) :
    (∃ v, (e.found tasks w.store)[i]? = some (some v) ∧ verdicts[i]? = some (v.servedTo task)) ∨
      (FirstMissed tasks (e.found tasks w.store) i task ∧ verdicts[i]? = some (results task.key)) ∨
      ((e.found tasks w.store)[i]? = some none ∧
        (∃ j t, j < i ∧ t.key = task.key ∧ FirstMissed tasks (e.found tasks w.store) j t) ∧
        verdicts[i]? = some ((results task.key).sharedWith task)) := by
  rw [ran.verdicts, List.getElem?_map, slotsFrom]
  rcases slotsOf_cases (length_found e tasks w.store) here with ⟨v, has, slot⟩ | ⟨first, slot⟩ | ⟨missed, leader, slot⟩
  · rw [slot]
    exact Or.inl ⟨v, has, rfl⟩
  · rw [slot]
    exact Or.inr (Or.inl ⟨first, rfl⟩)
  · rw [slot]
    exact Or.inr (Or.inr ⟨missed, leader, rfl⟩)

theorem Ran.checked (ran : e.Ran stopped tasks w w' results verdicts) {i : Nat} {task : Task}
    (first : FirstMissed tasks (e.found tasks w.store) i task) :
    e.After stopped task.job (Call.forKey task.key (w'.callsSince w)) (.inr (results task.key)) :=
  (ran.finished _ (job_of_firstMissed (length_found e tasks w.store) first)).1

theorem Ran.checked_verdict (ran : e.Ran stopped tasks w w' results verdicts) {i : Nat} {task : Task}
    (first : FirstMissed tasks (e.found tasks w.store) i task) : verdicts[i]? = some (results task.key) := by
  obtain ⟨here, missed, unseen⟩ := first
  rcases ran.cases here with ⟨v, has, _⟩ | ⟨_, verdict⟩ | ⟨_, ⟨j, t, less, same, there, missed', _⟩, _⟩
  · rw [missed] at has
    exact absurd has (by simp)
  · exact verdict
  · exact absurd missed' (unseen j t less there same)

end Places

end Engine

end PolicyLint
