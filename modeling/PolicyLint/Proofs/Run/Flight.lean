import PolicyLint.Proofs.Run.Accounting
import PolicyLint.Proofs.Run.Moments

/-!
# Calls in flight

A check waits for every call that is in flight, so there are never more of them than checks that may go
on. Of one key only one task of separate groups is checked, and its calls follow one another.
-/

namespace PolicyLint

def Call.flying (t : Nat) (calls : List Call) : Nat := calls.countP fun call => call.start ≤ t ∧ t < call.stop

theorem Call.flying_append (t : Nat) (a b : List Call) : flying t (a ++ b) = flying t a + flying t b :=
  List.countP_append

def Check.isAsking (c : Check) : Bool :=
  match c.phase with
  | .calling _ _ => true
  | .resting => false

def Moment.asking {σ τ : Type} (m : Moment σ τ) : Multiset Check := m.running.filter fun c => c.isAsking

def Check.Outlasts (t : Nat) (c : Check) : Prop := t < c.due

instance (t : Nat) : DecidablePred (Check.Outlasts t) := fun c => inferInstanceAs (Decidable (t < c.due))

namespace Engine

variable {σ τ : Type} {e : Engine σ τ}

/-! ### What a start or a step adds -/

/-- What an attempt or a step at a time adds to a world. A call that it makes starts at once, while the run
is not aborted, and the check goes on until its end. -/
structure Adds (time : Nat) (w : World σ τ) (next : Progress × World σ τ) (made : List Call) : Prop where
  calls : next.2.calls = w.calls ++ made
  abortAt : next.2.abortAt = w.abortAt
  aborted : w.aborted = true → next.2.aborted = true
  going : ∀ call ∈ made, call.start = time ∧ w.isAborted time = false
  awaited : ∀ t, Call.flying t made ≤ (onward next.1 0).countP (Check.Outlasts t)

theorem adds_nothing {time : Nat} {w : World σ τ} {next : Progress × World σ τ} (calls : next.2.calls = w.calls)
    (abortAt : next.2.abortAt = w.abortAt) (aborted : w.aborted = true → next.2.aborted = true) :
    Adds time w next [] where
  calls := by rw [calls, List.append_nil]
  abortAt := abortAt
  aborted := aborted
  going := by simp
  awaited _ := Nat.zero_le _

theorem flying_single_le (t : Nat) (call : Call) {c : Check} (due : c.due = call.stop) :
    Call.flying t [call] ≤ (onward (.inl c) 0).countP (Check.Outlasts t) := by
  by_cases before : c.Outlasts t
  · rw [onward, Multiset.countP_cons_of_pos _ before]
    exact Nat.le_trans List.countP_le_length (Nat.le_add_left 1 _)
  · have ended : ¬t < call.stop := due ▸ before
    rw [Call.flying, List.countP_cons_of_neg (by simp [ended])]
    exact Nat.zero_le _

theorem attempt_adds (e : Engine σ τ) (time : Nat) (c : Check) (w : World σ τ) :
    ∃ made, Adds time w (e.attempt time c w) made := by
  cases aborted : w.isAborted time with
  | true =>
    rw [attempt_of_aborted e aborted]
    exact ⟨[], adds_nothing rfl rfl id⟩
  | false =>
    rw [attempt_of_not_aborted e aborted]
    refine ⟨[e.callOf time c.job w.judge], rfl, rfl, id, ?_, ?_⟩
    · intro call member
      rw [List.mem_singleton.mp member]
      exact ⟨rfl, aborted⟩
    · exact fun t => flying_single_le t (e.callOf time c.job w.judge) rfl

theorem start_adds (e : Engine σ τ) (time : Nat) (job : Job) (w : World σ τ) :
    ∃ made, Adds time w (e.start time job w) made := by
  unfold start
  exact attempt_adds e time _ w

theorem step_adds (e : Engine σ τ) (time : Nat) (c : Check) (w : World σ τ) :
    ∃ made, Adds time w (e.step time c w) made := by
  cases phase : c.phase with
  | resting =>
    have same : e.step time c w = e.attempt time c w := by rw [step, phase]
    rw [same]
    exact attempt_adds e time c w
  | calling aborts outcome =>
    refine ⟨[], ?_⟩
    rw [step_calling e phase]
    have ends : w.aborted = true → (w.aborted || aborts) = true := fun aborted => by rw [aborted, Bool.true_or]
    split
    · rename_i findings _
      obtain ⟨_, follows, aborted⟩ :=
        succeed_eq e time (bill c outcome) findings { w with aborted := w.aborted || aborts }
      refine adds_nothing ?_ follows.abortAt fun before => aborted.trans (ends before)
      exact follows.calls.trans (List.append_nil _)
    · exact adds_nothing rfl rfl ends
    · exact adds_nothing rfl rfl ends

/-! ### How many calls are in flight -/

/-- Up to a moment never more calls than a limit have been in flight, and for those that still are there
are checks that go on. -/
structure Counted (limit : Nat) (base : World σ τ) (m : Moment σ τ) : Prop where
  calls : m.world.calls = base.calls ++ m.world.callsSince base
  past : ∀ t < m.time, Call.flying t (m.world.callsSince base) ≤ limit
  awaited : ∀ t, m.time ≤ t → Call.flying t (m.world.callsSince base) ≤ m.running.countP (Check.Outlasts t)
  few : m.running.card ≤ limit

theorem Counted.same {limit : Nat} {base w : World σ τ} {m : Moment σ τ} (counted : Counted limit base m)
    (calls : w.calls = m.world.calls) : Counted limit base { m with world := w } := by
  have since : w.callsSince base = m.world.callsSince base := by rw [World.callsSince, calls, World.callsSince]
  refine ⟨?_, ?_, ?_, counted.few⟩
  · rw [since, calls]
    exact counted.calls
  · rw [since]
    exact counted.past
  · rw [since]
    exact counted.awaited

theorem card_onward_le (p : Progress) (others : Multiset Check) : (onward p others).card ≤ others.card + 1 := by
  cases p with
  | inl c => exact Nat.le_of_eq (Multiset.card_cons c others)
  | inr v => exact Nat.le_succ _

theorem countP_onward (p : Progress) (others : Multiset Check) (t : Nat) :
    (onward p others).countP (Check.Outlasts t) =
      others.countP (Check.Outlasts t) + (onward p 0).countP (Check.Outlasts t) := by
  rw [← Multiset.countP_add, add_onward, add_zero]

theorem Counted.add {limit : Nat} {base : World σ τ} {m : Moment σ τ} {next : Progress × World σ τ} {made : List Call}
    {others : Multiset Check} (counted : Counted limit base m) (adds : Adds m.time m.world next made)
    (left : ∀ t, m.time ≤ t → m.running.countP (Check.Outlasts t) = others.countP (Check.Outlasts t))
    (few : others.card + 1 ≤ limit) :
    Counted limit base { m with running := onward next.1 others, world := next.2 } := by
  have since := callsSince_append counted.calls adds.calls
  refine ⟨?_, ?_, ?_, Nat.le_trans (card_onward_le _ _) few⟩
  · rw [since, adds.calls, ← List.append_assoc, ← counted.calls]
  · intro t before
    have later : Call.flying t made = 0 := by
      rw [Call.flying, List.countP_eq_zero]
      intro call member started
      have starts := (adds.going call member).1
      have reached := (of_decide_eq_true started).1
      exact absurd (starts ▸ reached) (Nat.not_le_of_lt before)
    rw [since, Call.flying_append, later]
    exact counted.past t before
  · intro t late
    rw [since, Call.flying_append, countP_onward, ← left t late]
    exact Nat.add_le_add (counted.awaited t late) (adds.awaited t)

theorem Event.counted {limit : Nat} {base : World σ τ} {m m' : Moment σ τ} (counted : Counted limit base m)
    (event : e.Event limit m m') : Counted limit base m' := by
  cases event with
  | lookup key =>
    obtain ⟨_, _, _, calls, _⟩ := lookup_alike e key m.world
    exact counted.same calls
  | @start job keyed room =>
    obtain ⟨made, adds⟩ := start_adds e m.time job m.world
    exact counted.add adds (fun _ _ => rfl) room
  | @step c others runs due =>
    obtain ⟨made, adds⟩ := step_adds e m.time c m.world
    have few := counted.few
    rw [runs, Multiset.card_cons] at few
    refine counted.add adds ?_ few
    intro t late
    rw [runs, Multiset.countP_cons_of_neg (p := Check.Outlasts t) _ (Nat.not_lt_of_le (Nat.le_trans due late))]
  | @wait time later early =>
    refine ⟨counted.calls, ?_, fun t late => counted.awaited t (Nat.le_trans later late), counted.few⟩
    intro t before
    by_cases past : t < m.time
    · exact counted.past t past
    · exact Nat.le_trans (counted.awaited t (Nat.le_of_not_lt past))
        (Nat.le_trans (Multiset.countP_le_card _ _) counted.few)
  | note notices => exact counted.same rfl
  | save => exact counted.same rfl

theorem counted_start (limit : Nat) (w : World σ τ) : Counted limit w ⟨0, 0, w⟩ where
  calls := by rw [World.callsSince_self, List.append_nil]
  past t before := absurd before (Nat.not_lt_zero t)
  awaited t _ := by
    rw [World.callsSince_self]
    exact Nat.zero_le _
  few := Nat.zero_le limit

theorem Leads.calls {limit : Nat} {w : World σ τ} {m : Moment σ τ} (leads : e.Leads limit ⟨0, 0, w⟩ m) :
    m.world.calls = w.calls ++ m.world.callsSince w :=
  (leads.keeps (P := Counted limit w) Event.counted (counted_start limit w)).calls

/-- At no time are more calls in flight than checks may go on. -/
theorem Leads.flying_le {limit : Nat} {w : World σ τ} {m : Moment σ τ} (leads : e.Leads limit ⟨0, 0, w⟩ m) (t : Nat) :
    Call.flying t (m.world.callsSince w) ≤ limit := by
  have counted := leads.keeps (P := Counted limit w) Event.counted (counted_start limit w)
  by_cases past : t < m.time
  · exact counted.past t past
  · exact Nat.le_trans (counted.awaited t (Nat.le_of_not_lt past))
      (Nat.le_trans (Multiset.countP_le_card _ _) counted.few)

/-- Neither are they from one moment to the next while no time passes. -/
theorem Leads.asking_le {limit : Nat} {w : World σ τ} {m : Moment σ τ} (leads : e.Leads limit ⟨0, 0, w⟩ m) :
    m.asking.card ≤ limit := by
  have counted := leads.keeps (P := Counted limit w) Event.counted (counted_start limit w)
  exact Nat.le_trans (Multiset.card_le_card (Multiset.filter_le _ _)) counted.few

/-! ### Calls for one key -/

/-- Each of some calls ends before the next one starts. -/
def Sequential (calls : List Call) : Prop := calls.Pairwise fun a b => a.stop ≤ b.start

theorem Sequential.flying_le {calls : List Call} (sequential : Sequential calls) (t : Nat) : Call.flying t calls ≤ 1 := by
  induction calls with
  | nil => exact Nat.zero_le 1
  | cons call rest ih =>
    obtain ⟨before, others⟩ := List.pairwise_cons.mp sequential
    by_cases flies : call.start ≤ t ∧ t < call.stop
    · have later : Call.flying t rest = 0 := by
        rw [Call.flying, List.countP_eq_zero]
        intro call' member flies'
        have started := (of_decide_eq_true flies').1
        exact absurd (Nat.lt_of_lt_of_le flies.2 (before call' member)) (Nat.not_lt_of_le started)
      rw [Call.flying] at later ⊢
      rw [List.countP_cons, later, if_pos (decide_eq_true flies)]
    · rw [Call.flying, List.countP_cons_of_neg (by rw [decide_eq_true_iff]; exact flies)]
      exact ih others

theorem Asks.start_le_stop {job : Job} {time : Nat} {call : Call} (asks : e.Asks job time call) :
    call.start ≤ call.stop := by
  obtain ⟨start, _, _, _, s, settled⟩ := asks
  have ends : (e.settle time (e.judge.ask s call.prompt call.model).1).1 = call.stop := by rw [settled]
  rw [start, ← ends]
  exact settle_le e time _

theorem sequential_append {calls : List Call} {call : Call} (sequential : Sequential calls)
    (before : ∀ a ∈ calls, a.stop ≤ call.start) : Sequential (calls ++ [call]) := by
  refine List.pairwise_append.mpr ⟨sequential, List.pairwise_singleton _ _, ?_⟩
  intro a member b last
  rw [List.mem_singleton.mp last]
  exact before a member

theorem Passed.sequential {job : Job} {started due : Nat} {calls : List Call} (passed : e.Passed job started calls due) :
    Sequential calls ∧ ∀ a ∈ calls, a.stop ≤ due := by
  induction passed with
  | none => exact ⟨.nil, by simp⟩
  | more before asks again ih =>
    refine ⟨sequential_append ih.1 ih.2, ?_⟩
    intro a member
    rcases List.mem_append.mp member with earlier | last
    · exact Nat.le_trans (ih.2 a earlier) (Nat.le_trans asks.start_le_stop (Nat.le_add_right _ _))
    · rw [List.mem_singleton.mp last]
      exact Nat.le_add_right _ _

theorem After.sequential {stopped : Nat → Prop} {job : Job} {calls : List Call} {p : Progress}
    (after : e.After stopped job calls p) : Sequential calls := by
  cases after with
  | resting passed _ _ _ _ => exact passed.sequential.1
  | calling passed _ _ _ _ _ _ => exact sequential_append passed.sequential.1 passed.sequential.2
  | judged passed _ _ => exact sequential_append passed.sequential.1 passed.sequential.2
  | failed passed _ _ => exact sequential_append passed.sequential.1 passed.sequential.2
  | cancelled passed _ => exact passed.sequential.1

/-! ### Whose calls they are -/

section Tracing

variable {known : Job → Prop} {base : World σ τ}

def Listed (groups : List (List Task)) (job : Job) : Prop := ∃ tasks ∈ groups, ∃ t ∈ tasks, job = t.job

structure Traced (e : Engine σ τ) (known : Job → Prop) (base : World σ τ) (_ : Nat) (w : World σ τ) : Prop where
  calls : w.calls = base.calls ++ w.callsSince base
  asks : ∀ call ∈ w.callsSince base, ∃ job, known job ∧ e.Asks job call.start call

/-- The calls since an earlier world that have the key of a job are its own. -/
def Owns (e : Engine σ τ) (known : Job → Prop) (base : World σ τ) (job : Job) (stage : Stage) (w : World σ τ) : Prop :=
  match stage with
  | .waiting => Call.forKey job.key (w.callsSince base) = []
  | .queued => known job ∧ Call.forKey job.key (w.callsSince base) = []
  | .reached p => known job ∧ e.After (fun _ => True) job (Call.forKey job.key (w.callsSince base)) p

theorem Traced.follow {time time' : Nat} {job : Job} {w w' : World σ τ} {made : List Call} {stored : List (Key × Verdict)}
    (traced : e.Traced known base time w) (known' : known job) (follows : e.Follows w w' made stored)
    (asked : e.MadeAt job time' w made) : e.Traced known base time' w' := by
  have calls := callsSince_append traced.calls follows.calls
  refine ⟨?_, ?_⟩
  · rw [calls, follows.calls, traced.calls, List.append_assoc]
  · intro call member
    rw [calls] at member
    rcases List.mem_append.mp member with old | new
    · exact traced.asks call old
    · exact ⟨job, known', asks_at_start (asked call new).1⟩

theorem owns_of_follows {time time' : Nat} {job job' : Job} {stage : Stage} {w w' : World σ τ} {made : List Call}
    {stored : List (Key × Verdict)} (traced : e.Traced known base time w) (follows : e.Follows w w' made stored)
    (asked : e.MadeAt job time' w made) (different : job.key ≠ job'.key) (owns : e.Owns known base job' stage w) :
    e.Owns known base job' stage w' := by
  unfold Owns at owns ⊢
  rw [forKey_follows_other traced.calls follows (fun call member => (asked call member).1) different]
  exact owns

/-- Every start and every step adds to the calls of its own job and of no other. -/
theorem owns_upkeep (e : Engine σ τ) (known : Job → Prop) (base : World σ τ) :
    e.Upkeep (· ≠ ·) (e.Traced known base) (e.Owns known base) where
  symm := Ne.symm
  ofNe := id
  later traced _ := ⟨traced.calls, traced.asks⟩
  start := by
    intro time job w traced owns
    obtain ⟨known', none⟩ := owns
    obtain ⟨made, follows, after, _, asked⟩ := @after_start _ _ e (fun _ => True) time job w fun _ => trivial
    refine ⟨traced.follow known' follows asked, ⟨known', ?_⟩, ?_⟩
    · rw [forKey_follows traced.calls follows (fun call member => (asked call member).1), none, List.nil_append]
      exact after
    · exact fun different before => owns_of_follows traced follows asked different before
  step := by
    intro c w traced owns
    obtain ⟨known', sofar⟩ := owns
    obtain ⟨made, follows, after, _, asked⟩ := after_step e sofar fun _ : w.isAborted c.due = true => trivial
    refine ⟨traced.follow known' follows asked, ⟨known', ?_⟩, ?_⟩
    · rw [forKey_follows traced.calls follows (fun call member => (asked call member).1)]
      exact after
    · exact fun different before => owns_of_follows traced follows asked different before

theorem opens_owns {groups : List (List Task)} {tasks : List Task} (member : tasks ∈ groups) :
    Opens e (e.Traced (Listed groups) base) (e.Owns (Listed groups) base) (fun _ _ => True) tasks := by
  intro time w traced waits
  have alike := assign_alike e [] tasks w
  have since : (e.assign [] tasks w).2.callsSince base = w.callsSince base := by
    rw [World.callsSince, alike.2.2.2.1, World.callsSince]
  refine ⟨⟨?_, ?_⟩, trivial, ?_, ?_⟩
  · rw [since, alike.2.2.2.1]
    exact traced.calls
  · rw [since]
    exact traced.asks
  · intro job queued
    rw [assign_slots] at queued
    obtain ⟨t, inTasks, rfl⟩ := mem_jobsOf_slotsOf queued
    refine ⟨⟨tasks, member, t, inTasks, rfl⟩, ?_⟩
    rw [since]
    exact waits t inTasks
  · intro job stage owns
    unfold Owns at owns ⊢
    rw [since]
    exact owns

end Tracing

/-! ### Whole runs -/

/-- How the calls of a run, at most as many at once as a limit allows, belong to its tasks, of which the
verdicts are given: of the tasks with one key at most one counts a miss, and all calls for the key are
its attempts, one after the other. -/
structure Flown (e : Engine σ τ) (limit : Nat) (answers : List (Task × Verdict)) (made : List Call) : Prop where
  few : ∀ t, Call.flying t made ≤ limit
  single : ∀ t key, Call.flying t (Call.forKey key made) ≤ 1
  sequential : ∀ key, Sequential (Call.forKey key made)
  alone : answers.Pairwise fun p q => p.1.key = q.1.key → ¬(p.2.misses = 1 ∧ q.2.misses = 1)
  owned : ∀ call ∈ made, ∃ p ∈ answers, p.1.key = call.key ∧ p.2.misses = 1 ∧
    e.After (fun _ => True) p.1.job (Call.forKey call.key made) (.inr p.2)

section Whole

variable {known : Job → Prop} {Q : List Task → List (Option Verdict) → Prop} {tasks : List Task}
  {verdicts : List Verdict} {w w' : World σ τ}

theorem zip_of_slots {found : List (Option Verdict)} (long : found.length = tasks.length) (results : Key → Verdict) :
    tasks.zip ((slotsOf [] tasks found).map (verdictOf results)) =
      (slotsOf [] tasks found).map fun s => (s.task, verdictOf results s) := by
  have tasksHere := slotsOf_tasks [] long
  rw [← List.zip_map', tasksHere]

theorem checked_of_misses {results : Key → Verdict} {s : Slot} (missed : (verdictOf results s).misses = 1) :
    s.origin = .checked := by
  cases origin : s.origin with
  | checked => rfl
  | served v =>
    rw [verdictOf, origin] at missed
    exact absurd missed (by rw [(v.free_servedTo s.task).misses]; decide)
  | shared =>
    rw [verdictOf, origin] at missed
    exact absurd missed (by rw [((results s.key).free_sharedWith s.task).misses]; decide)

theorem pairwise_checked (tasks : List Task) (found : List (Option Verdict)) :
    (slotsOf [] tasks found).Pairwise fun s s' => s.origin = .checked → s'.origin = .checked → s.key ≠ s'.key := by
  have distinct := (jobsOf_slotsOf_nodup [] tasks found).1
  rw [List.Nodup, List.pairwise_map, Group.jobsOf, List.pairwise_filterMap] at distinct
  refine distinct.imp ?_
  intro s s' apart checked checked'
  exact apart { task := s.task, key := s.key } (by rw [checked]) { task := s'.task, key := s'.key } (by rw [checked'])

/-- Of the tasks of a closed group that have one key at most one counts a miss. -/
theorem Settled.alone {P : Job → Stage → World σ τ → Prop} (settled : Settled P Q tasks verdicts w') :
    (tasks.zip verdicts).Pairwise fun p q => p.1.key = q.1.key → ¬(p.2.misses = 1 ∧ q.2.misses = 1) := by
  obtain ⟨found, results, long, _, rfl, _, _⟩ := settled
  rw [zip_of_slots long, List.pairwise_map]
  refine (pairwise_checked tasks found).imp_of_mem ?_
  rintro s s' member member' apart same ⟨missed, missed'⟩
  refine apart (checked_of_misses missed) (checked_of_misses missed') ?_
  rw [(key_of_mem_slotsOf member).1, (key_of_mem_slotsOf member').1]
  exact same

theorem Settled.owned (settled : Settled (e.Owns known w) Q tasks verdicts w') {t : Task} (inTasks : t ∈ tasks) {call : Call}
    (made : call ∈ Call.forKey t.key (w'.callsSince w)) :
    ∃ p ∈ tasks.zip verdicts, p.1.key = t.key ∧ p.2.misses = 1 ∧
      e.After (fun _ => True) p.1.job (Call.forKey t.key (w'.callsSince w)) (.inr p.2) := by
  obtain ⟨found, results, long, _, rfl, ended, idle⟩ := settled
  have some : ∃ job ∈ Group.jobsOf (slotsOf [] tasks found), job.key = t.key := by
    apply Classical.byContradiction
    intro none
    have quiet : Call.forKey t.key (w'.callsSince w) = [] :=
      idle t inTasks fun job member same => none ⟨job, member, same⟩
    rw [quiet] at made
    exact absurd made (by simp)
  obtain ⟨job, member, same⟩ := some
  obtain ⟨_, after⟩ := ended job member
  obtain ⟨s, slot, checked, rfl⟩ := mem_jobsOf.mp member
  have own := (key_of_mem_slotsOf slot).1
  have verdict : verdictOf results s = results s.key := by rw [verdictOf, checked]
  dsimp only at same after
  rw [same] at after
  rw [zip_of_slots long]
  refine ⟨(s.task, verdictOf results s), List.mem_map_of_mem slot, own.symm.trans same, ?_, ?_⟩
  · rw [verdict, same]
    exact after.bills.misses
  · rw [verdict, Task.job, ← own, same]
    exact after

variable {groups : List (List Task)}

theorem pairwise_answersOf {R : Task × Verdict → Task × Verdict → Prop} {verdicts : List (List Verdict)}
    (long : groups.length = verdicts.length)
    (each : ∀ g ∈ groups.zip verdicts, (g.1.zip g.2).Pairwise R)
    (apart : groups.Pairwise fun a b => ∀ t ∈ a, ∀ t' ∈ b, ∀ v v', R (t, v) (t', v')) :
    (answersOf groups verdicts).Pairwise R := by
  refine List.pairwise_flatMap.mpr ⟨each, ?_⟩
  rw [← List.map_fst_zip (Nat.le_of_eq long), List.pairwise_map] at apart
  refine apart.imp ?_
  rintro g g' others ⟨t, v⟩ member ⟨t', v'⟩ member'
  exact others t (List.of_mem_zip member).1 t' (List.of_mem_zip member').1 v v'

/-- Every run of groups of tasks that share no keys. -/
theorem runGroups_flown (e : Engine σ τ) (separate : Separate (· ≠ ·) groups) {width bound : Nat} (wide : 0 < width)
    (room : 0 < bound) (w : World σ τ) :
    ∃ made, (e.runGroups width bound groups w).2.calls = w.calls ++ made ∧
      e.Flown (width * bound) (answersOf groups (e.runGroups width bound groups w).1.1) made ∧
      (answersOf groups (e.runGroups width bound groups w).1.1).map Prod.fst = groups.flatten ∧
      (answersOf groups (e.runGroups width bound groups w).1.1).map Prod.snd =
        (e.runGroups width bound groups w).1.1.flatten := by
  have waits : ∀ tasks ∈ groups, ∀ t ∈ tasks, e.Owns (Listed groups) w t.job .waiting w := by
    intro tasks _ t _
    show Call.forKey t.key (w.callsSince w) = []
    rw [World.callsSince_self]
    rfl
  have begun : e.Traced (Listed groups) w 0 w := by
    refine ⟨?_, ?_⟩
    · rw [World.callsSince_self, List.append_nil]
    · rw [World.callsSince_self]
      simp
  have opens : ∀ tasks ∈ groups, Opens e (e.Traced (Listed groups) w) (e.Owns (Listed groups) w) (fun _ _ => True) tasks :=
    fun tasks member => opens_owns member
  obtain ⟨traced, settled⟩ := runGroups_keeps (owns_upkeep e (Listed groups) w) separate wide room begun waits opens
  have long := length_runGroups e width bound groups w
  have owned : ∀ call ∈ (e.runGroups width bound groups w).2.callsSince w,
      ∃ p ∈ answersOf groups (e.runGroups width bound groups w).1.1, p.1.key = call.key ∧ p.2.misses = 1 ∧
        e.After (fun _ => True) p.1.job
          (Call.forKey call.key ((e.runGroups width bound groups w).2.callsSince w)) (.inr p.2) := by
    intro call member
    obtain ⟨_, ⟨tasks, inGroups, t, inTasks, rfl⟩, asks⟩ := traced.asks call member
    obtain ⟨i, here⟩ := List.mem_iff_getElem?.mp inGroups
    obtain ⟨vs, is, closed⟩ := settled i tasks here
    have own : call.key = t.key := asks.2.1
    rw [own]
    obtain ⟨p, listed, rest⟩ := closed.owned inTasks (Call.mem_forKey.mpr ⟨member, own⟩)
    have pair : (tasks, vs) ∈ groups.zip (e.runGroups width bound groups w).1.1 :=
      List.mem_of_getElem? (List.getElem?_zip_eq_some.mpr ⟨here, is⟩)
    exact ⟨p, List.mem_flatMap.mpr ⟨(tasks, vs), pair, listed⟩, rest⟩
  -- All calls for a key that has some are those of one check, whose history is sequential.
  have sequential : ∀ key, Sequential (Call.forKey key ((e.runGroups width bound groups w).2.callsSince w)) := by
    intro key
    cases own : Call.forKey key ((e.runGroups width bound groups w).2.callsSince w) with
    | nil => exact .nil
    | cons call rest =>
      have member : call ∈ Call.forKey key ((e.runGroups width bound groups w).2.callsSince w) := by
        rw [own]
        exact List.mem_cons_self
      obtain ⟨made, rfl⟩ := Call.mem_forKey.mp member
      obtain ⟨p, _, _, _, after⟩ := owned call made
      rw [← own]
      exact after.sequential
  refine ⟨_, traced.calls, ⟨(runGroups_leads e width bound groups w).flying_le,
    fun t key => (sequential key).flying_le t, sequential, ?_, owned⟩, ?_⟩
  · refine pairwise_answersOf long.symm ?_ ?_
    · rintro ⟨tasks, vs⟩ member
      obtain ⟨i, both⟩ := List.mem_iff_getElem?.mp member
      obtain ⟨here, is⟩ := List.getElem?_zip_eq_some.mp both
      obtain ⟨vs', is', closed⟩ := settled i tasks here
      obtain rfl := Option.some.inj (is.symm.trans is')
      exact closed.alone
    · exact separate.imp fun others t member t' member' _ _ same => absurd same (others t member t' member')
  · refine map_answersOf long.symm ?_
    intro i tasks here
    obtain ⟨vs, is, found, results, same, _, rfl, _⟩ := settled i tasks here
    refine ⟨_, is, ?_⟩
    rw [List.length_map, ← List.length_map Slot.task, slotsOf_tasks [] same]

end Whole

end Engine

end PolicyLint
