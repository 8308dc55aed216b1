import PolicyLint.Proofs.Run.Verdicts

/-!
# Runs with a store that can be relied on

A lawful store is changed by nothing but what is filed, and then under one key alone. A run with such a
store serves every task that it has a verdict for and makes no call for it. What a completion of the run
was accepted for is filed, once. `runGroups_warm` says so of groups of tasks with different keys.
-/

namespace PolicyLint

namespace Store

variable {τ : Type}

/-- A store whose lookups change nothing, and in which filing under a key changes no other one. -/
structure Lawful (s : Store τ) : Prop where
  still : ∀ (t : τ) (k : Key), (s.get t k).2 = t
  other : ∀ (t : τ) {k k' : Key} (v : Verdict), k' ≠ k → (s.get (s.set t k' v).2 k).1 = (s.get t k).1

def view (s : Store τ) (t : τ) (k : Key) : Option Verdict := verdictFor k (s.get t k).1

theorem Lawful.get_sets {s : Store τ} (lawful : s.Lawful) {filed : List (Key × Verdict)} {k : Key}
    (absent : ∀ p ∈ filed, p.1 ≠ k) (t : τ) : (s.get (s.sets filed t) k).1 = (s.get t k).1 := by
  induction filed generalizing t with
  | nil => rfl
  | cons p rest ih =>
    rw [sets, List.foldl_cons]
    show (s.get (s.sets rest (s.set t p.1 p.2).2) k).1 = _
    rw [ih (fun q member => absent q (List.mem_cons_of_mem _ member)),
      lawful.other t p.2 (absent p List.mem_cons_self)]

theorem Lawful.answers_eq {s : Store τ} (lawful : s.Lawful) (keys : List Key) (t : τ) :
    s.answers keys t = keys.map fun k => (s.get t k).1 := by
  induction keys with
  | nil => rfl
  | cons k rest ih => rw [answers, lawful.still, ih, List.map_cons]

end Store

namespace Engine

variable {σ τ : Type} {e : Engine σ τ}

theorem found_of_lawful (lawful : e.store.Lawful) (tasks : List Task) (t : τ) :
    e.found tasks t = tasks.map fun task => e.store.view t task.key := by
  rw [found, lawful.answers_eq, List.map_map, List.zipWith_map, List.zipWith_self]
  rfl

theorem assign_store (lawful : e.store.Lawful) (missed : List Key) (tasks : List Task) (w : World σ τ) :
    (e.assign missed tasks w).2.store = w.store := by
  have looked : ∀ (key : Key) (w : World σ τ), (e.lookup key w).2.store = w.store := by
    intro key w
    rw [lookup_store, lawful.still]
  induction tasks generalizing missed w with
  | nil => rfl
  | cons task rest ih =>
    rw [assign_cons]
    cases (e.lookup task.key w).1 with
    | some v => exact (ih missed _).trans (looked task.key w)
    | none => exact (ih (task.key :: missed) _).trans (looked task.key w)

/-! ### Accepted completions -/

/-- A completion that can be read for some file and rule is judged for every task. -/
theorem ofOutcome_accepted {completion : Completion} {path rule : String} {findings : List Finding}
    (read : readCompletion completion.text path rule = .ok findings) (t : Task) :
    ∃ findings', readCompletion completion.text t.file.path t.rule.name = .ok findings' ∧
      ∀ attempts left, Conclusion.ofOutcome t attempts left (.ok completion) = .judged findings' := by
  refine ⟨findings.map fun f => { f with path := t.file.path, rule := t.rule.name }, ?_, ?_⟩
  · rw [readCompletion_retarget _ path rule, read]
    rfl
  · intro attempts left
    unfold Conclusion.ofOutcome
    dsimp only
    rw [readCompletion_retarget _ path rule, read]
    rfl

theorem Passed.not_accepted {job : Job} {started due : Nat} {calls : List Call} (passed : e.Passed job started calls due)
    {call : Call} (member : call ∈ calls) {completion : Completion} (brought : call.outcome = .ok completion)
    {path rule : String} {findings : List Finding} : readCompletion completion.text path rule ≠ .ok findings := by
  intro read
  obtain ⟨findings', _, judged⟩ := ofOutcome_accepted read job.task
  induction passed with
  | none => exact absurd member (by simp)
  | more before asks again ih =>
    rcases List.mem_append.mp member with earlier | last
    · exact ih earlier
    · obtain rfl := List.mem_singleton.mp last
      rw [concludes, brought, judged] at again
      exact absurd again (by simp)

/-- A check ends with the findings of the completion that is accepted for it. -/
theorem After.accepted {stopped : Nat → Prop} {job : Job} {calls : List Call} {v : Verdict}
    (after : e.After stopped job calls (.inr v)) {call : Call} (member : call ∈ calls) {completion : Completion}
    (brought : call.outcome = .ok completion) {path rule : String} {findings : List Finding}
    (read : readCompletion completion.text path rule = .ok findings) :
    v.failures = [] ∧ readCompletion completion.text job.task.file.path job.task.rule.name = .ok v.findings := by
  obtain ⟨findings', reads, judged⟩ := ofOutcome_accepted read job.task
  cases after with
  | @judged calls last started found passed asks concluded =>
    rcases List.mem_append.mp member with earlier | final
    · exact absurd read (passed.not_accepted earlier brought)
    · obtain rfl := List.mem_singleton.mp final
      rw [concludes, brought, judged] at concluded
      obtain rfl := Conclusion.judged.inj concluded
      exact ⟨rfl, reads⟩
  | @failed calls last started kind why passed asks concluded =>
    rcases List.mem_append.mp member with earlier | final
    · exact absurd read (passed.not_accepted earlier brought)
    · obtain rfl := List.mem_singleton.mp final
      rw [concludes, brought, judged] at concluded
      exact absurd concluded (by simp)
  | cancelled passed stop => exact absurd read (passed.not_accepted member brought)

/-! ### Lookups of a lawful store keep the record -/

section Lookups

variable {stopped : Nat → Prop} {known : Job → Prop} {base w w' : World σ τ}

theorem since_of_alike_later (alike : Alike w w') (base : World σ τ) :
    w'.callsSince base = w.callsSince base ∧ w'.filedSince base = w.filedSince base := by
  obtain ⟨_, _, _, calls, filed⟩ := alike
  exact ⟨by rw [World.callsSince, calls, World.callsSince], by rw [World.filedSince, filed, World.filedSince]⟩

theorem Recorded.of_alike {time : Nat} (recorded : e.Recorded stopped known base time w) (alike : Alike w w')
    (store : w'.store = w.store) : e.Recorded stopped known base time w' := by
  obtain ⟨calls, filed⟩ := since_of_alike_later alike base
  refine ⟨?_, ?_, ?_, ?_, ?_, ?_⟩
  · rw [calls, alike.2.2.2.1]
    exact recorded.calls
  · rw [filed, alike.2.2.2.2]
    exact recorded.filed
  · rw [filed, store]
    exact recorded.store
  · intro t n late stop
    rw [alike.isOver] at stop
    exact recorded.stop t n late stop
  · rw [calls]
    exact recorded.asks
  · rw [filed]
    exact recorded.sources

theorem Stands.of_alike {job : Job} {stage : Stage} (stands : e.Stands stopped known base job stage w)
    (alike : Alike w w') : e.Stands stopped known base job stage w' := by
  obtain ⟨calls, filed⟩ := since_of_alike_later alike base
  unfold Stands at stands ⊢
  rw [calls, filed]
  exact stands

end Lookups

/-! ### Whole runs -/

def Missed (e : Engine σ τ) (groups : List (List Task)) (t : τ) (job : Job) : Prop :=
  (∃ tasks ∈ groups, ∃ task ∈ tasks, job = task.job) ∧ e.store.view t job.key = none

/-- Tasks for which a store has a verdict are answered with it. -/
def Answers (e : Engine σ τ) (t : τ) (tasks : List Task) (found : List (Option Verdict)) : Prop :=
  ∀ (i : Nat) (task : Task) (v : Verdict), tasks[i]? = some task → e.store.view t task.key = some v →
    found[i]? = some (some v)

/-- What a run of groups of tasks from one world to another comes to when the store can be relied on. -/
structure Warm (e : Engine σ τ) (groups : List (List Task)) (w w' : World σ τ) (verdicts : List (List Verdict)) :
    Prop where
  store : w'.store = e.store.sets (w'.filedSince w) w.store
  calls : w'.calls = w.calls ++ w'.callsSince w
  missed : ∀ call ∈ w'.callsSince w, e.store.view w.store call.key = none
  unfiled : ∀ p ∈ w'.filedSince w, e.store.view w.store p.1 = none
  once : ∀ p ∈ w'.filedSince w, filedUnder p.1 (w'.filedSince w) = [p]
  accepted : ∀ call ∈ w'.callsSince w, ∀ completion, call.outcome = .ok completion →
    ∀ path rule findings, readCompletion completion.text path rule = .ok findings →
    ∃ v path' rule', (call.key, v) ∈ w'.filedSince w ∧
      readCompletion completion.text path' rule' = .ok v.findings ∧ v.failures = []
  served : ∀ (i : Nat) (tasks : List Task), groups[i]? = some tasks → ∃ vs, verdicts[i]? = some vs ∧
    vs.length = tasks.length ∧ ∀ (j : Nat) (task : Task) (u : Verdict), tasks[j]? = some task →
      e.store.view w.store task.key = some u → vs[j]? = some (u.servedTo task)

section Warm

variable {groups : List (List Task)} {w : World σ τ}

theorem view_of_recorded (lawful : e.store.Lawful) {stopped : Nat → Prop} {known : Job → Prop} {time : Nat}
    {base w' : World σ τ} (recorded : e.Recorded stopped known base time w') {k : Key}
    (absent : ∀ p ∈ w'.filedSince base, p.1 ≠ k) : e.store.view w'.store k = e.store.view base.store k := by
  rw [Store.view, recorded.store, lawful.get_sets absent, Store.view]

/-- The lookups of a group leave those jobs over for which the store had nothing from the beginning. -/
theorem opens_of_lawful (lawful : e.store.Lawful) {tasks : List Task} (member : tasks ∈ groups) :
    Opens e (e.Recorded (fun _ => True) (e.Missed groups w.store) w)
      (e.Stands (fun _ => True) (e.Missed groups w.store) w) (e.Answers w.store) tasks := by
  intro time w' recorded waits
  have alike := assign_alike e [] tasks w'
  have store := assign_store lawful [] tasks w'
  refine ⟨recorded.of_alike alike store, ?_, ?_, fun job stage before => before.of_alike alike⟩
  · intro i task v here has
    have absent : ∀ p ∈ w'.filedSince w, p.1 ≠ task.key := by
      intro p filed same
      obtain ⟨job, ⟨_, nothing⟩, own⟩ := recorded.sources p filed
      rw [own, same, has] at nothing
      exact absurd nothing (by simp)
    rw [found_of_lawful lawful, List.getElem?_map, here, Option.map_some, view_of_recorded lawful recorded absent, has]
  · intro job queued
    rw [assign_slots] at queued
    obtain ⟨i, task, rfl, here, missed, _⟩ := firstMissed_of_job e queued
    have inTasks : task ∈ tasks := List.mem_of_getElem? here
    obtain ⟨noCalls, noFiled⟩ := waits task inTasks
    -- The group still waits, so nothing was filed for its keys and the store misses them as before.
    have absent : ∀ p ∈ w'.filedSince w, p.1 ≠ task.key := by
      intro p filed same
      have there : p ∈ filedUnder task.key (w'.filedSince w) := mem_filedUnder.mpr ⟨filed, same⟩
      rw [noFiled] at there
      exact absurd there (by simp)
    have nothing : e.store.view w'.store task.key = none := by
      rw [found_of_lawful lawful, List.getElem?_map, here] at missed
      exact Option.some.inj missed
    rw [view_of_recorded lawful recorded absent] at nothing
    obtain ⟨calls, filed⟩ := since_of_alike_later alike w
    refine ⟨⟨⟨tasks, member, task, inTasks, rfl⟩, nothing⟩, ?_, ?_⟩
    · rw [calls]
      exact noCalls
    · rw [filed]
      exact noFiled

/-- What is known of a task whose group is closed: its job is finished, or nothing was done for its key. -/
theorem Settled.reached {stopped : Nat → Prop} {known : Job → Prop} {Q : List Task → List (Option Verdict) → Prop}
    {tasks : List Task} {verdicts : List Verdict} {w' : World σ τ}
    (settled : Settled (e.Stands stopped known w) Q tasks verdicts w') {task : Task} (member : task ∈ tasks) :
    (∃ job v, job.key = task.key ∧ e.After stopped job (Call.forKey task.key (w'.callsSince w)) (.inr v) ∧
        filedUnder task.key (w'.filedSince w) = filedFor job (.inr v)) ∨
      Call.forKey task.key (w'.callsSince w) = [] ∧ filedUnder task.key (w'.filedSince w) = [] := by
  obtain ⟨found, results, _, _, _, ended, idle⟩ := settled
  by_cases some : ∃ job ∈ Group.jobsOf (slotsOf [] tasks found), job.key = task.key
  · obtain ⟨job, there, same⟩ := some
    obtain ⟨_, after, filed⟩ := ended job there
    rw [same] at after filed
    exact Or.inl ⟨job, results task.key, same, after, filed⟩
  · exact Or.inr (idle task member fun job there same => some ⟨job, there, same⟩)

section Closed

variable {stopped : Nat → Prop} {known : Job → Prop} {Q : List Task → List (Option Verdict) → Prop} {tasks : List Task}
  {verdicts : List Verdict} {w' : World σ τ} (settled : Settled (e.Stands stopped known w) Q tasks verdicts w')
  {task : Task} (member : task ∈ tasks)

include settled member

theorem Settled.filed_once {p : Key × Verdict} (filed : p ∈ filedUnder task.key (w'.filedSince w)) :
    filedUnder task.key (w'.filedSince w) = [p] := by
  rcases settled.reached member with ⟨job, v, _, _, same⟩ | ⟨_, none⟩
  · rw [same] at filed ⊢
    unfold filedFor at filed ⊢
    dsimp only at filed ⊢
    split at filed
    · rename_i judged
      rw [if_pos judged, List.mem_singleton.mp filed]
    · exact absurd filed (by simp)
  · rw [none] at filed
    exact absurd filed (by simp)

theorem Settled.accepted {call : Call} (made : call ∈ Call.forKey task.key (w'.callsSince w)) {completion : Completion}
    (brought : call.outcome = .ok completion) {path rule : String} {findings : List Finding}
    (read : readCompletion completion.text path rule = .ok findings) :
    ∃ v path' rule', (task.key, v) ∈ w'.filedSince w ∧
      readCompletion completion.text path' rule' = .ok v.findings ∧ v.failures = [] := by
  rcases settled.reached member with ⟨job, v, same, after, filed⟩ | ⟨none, _⟩
  · obtain ⟨judged, reads⟩ := after.accepted made brought read
    have listed : (task.key, v) ∈ filedUnder task.key (w'.filedSince w) := by
      rw [filed, filedFor, judged, same]
      exact List.mem_singleton.mpr rfl
    exact ⟨v, _, _, (mem_filedUnder.mp listed).1, reads, judged⟩
  · rw [none] at made
    exact absurd made (by simp)

end Closed

/-- A run of groups of tasks that share no keys, with a store that can be relied on. -/
theorem runGroups_warm (lawful : e.store.Lawful) (separate : Separate (· ≠ ·) groups) {width bound : Nat}
    (wide : 0 < width) (room : 0 < bound) (w : World σ τ) :
    e.Warm groups w (e.runGroups width bound groups w).2 (e.runGroups width bound groups w).1.1 := by
  have waits : ∀ tasks ∈ groups, ∀ t ∈ tasks,
      e.Stands (fun _ => True) (e.Missed groups w.store) w t.job .waiting w := by
    intro tasks _ t _
    refine ⟨?_, ?_⟩
    · rw [World.callsSince_self]
      rfl
    · rw [World.filedSince_self]
      rfl
  have opens : ∀ tasks ∈ groups, Opens e (e.Recorded (fun _ => True) (e.Missed groups w.store) w)
      (e.Stands (fun _ => True) (e.Missed groups w.store) w) (e.Answers w.store) tasks :=
    fun tasks member => opens_of_lawful lawful member
  obtain ⟨recorded, settled⟩ :=
    runGroups_keeps (record_upkeep (stops_always w)) separate wide room (Recorded.refl (stops_always w)) waits opens
  refine ⟨recorded.store, recorded.calls, ?_, ?_, ?_, ?_, ?_⟩
  · intro call member
    obtain ⟨job, ⟨_, nothing⟩, asks⟩ := recorded.asks call member
    rw [asks.2.1]
    exact nothing
  · intro p member
    obtain ⟨job, ⟨_, nothing⟩, own⟩ := recorded.sources p member
    rw [← own]
    exact nothing
  · intro p member
    obtain ⟨_, ⟨⟨tasks, inGroups, task, inTasks, rfl⟩, _⟩, own⟩ := recorded.sources p member
    obtain ⟨i, here⟩ := List.mem_iff_getElem?.mp inGroups
    obtain ⟨vs, _, closed⟩ := settled i tasks here
    rw [← own]
    exact closed.filed_once inTasks (mem_filedUnder.mpr ⟨member, own.symm⟩)
  · intro call member completion brought path rule findings read
    obtain ⟨_, ⟨⟨tasks, inGroups, task, inTasks, rfl⟩, _⟩, asks⟩ := recorded.asks call member
    obtain ⟨i, here⟩ := List.mem_iff_getElem?.mp inGroups
    obtain ⟨vs, _, closed⟩ := settled i tasks here
    rw [asks.2.1]
    exact closed.accepted inTasks (Call.mem_forKey.mpr ⟨member, asks.2.1⟩) brought read
  · intro i tasks here
    obtain ⟨vs, listed, found, results, long, has, same, _⟩ := settled i tasks here
    have tasksHere := slotsOf_tasks [] long
    refine ⟨vs, listed, ?_, ?_⟩
    · rw [same, List.length_map, ← List.length_map Slot.task, tasksHere]
    · intro j task u there view
      obtain ⟨before, _, slot⟩ := slotsOf_getElem? [] there (has j task u there view)
      rw [same, List.getElem?_map, slot]
      rfl

end Warm

end Engine

end PolicyLint
