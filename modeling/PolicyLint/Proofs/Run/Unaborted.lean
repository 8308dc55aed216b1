import PolicyLint.Proofs.Run.Abort
import PolicyLint.Proofs.Run.Keyed

/-!
# Runs that are not aborted

A run that is not aborted by its end has never been aborted before, so each job that leaves a queue makes
its first call. `run_asks` says that such a run makes a call for every key that the store does not answer,
and `Ran.length_calls_le` that no run makes more than all attempts for each of them.
-/

namespace PolicyLint

namespace Engine

variable {σ τ : Type} {e : Engine σ τ} {limit : Nat}

theorem Leads.aborted {m m' : Moment σ τ} (leads : e.Leads limit m m') (stop : m.world.isAborted m.time = true) :
    m'.world.isAborted m'.time = true := by
  refine leads.keeps (P := fun m' => m'.world.isAborted m'.time = true) ?_ stop
  intro m₁ m₂ stop' event
  obtain ⟨made, goes⟩ := event.goes
  exact goes.later stop'

theorem Leads.going_before {m m' : Moment σ τ} (leads : e.Leads limit m m')
    (going : m'.world.isAborted m'.time = false) : m.world.isAborted m.time = false := by
  cases stop : m.world.isAborted m.time with
  | false => rfl
  | true => exact absurd (leads.aborted stop) (by simp [going])

theorem Leads.length_calls_le {m m' : Moment σ τ} (leads : e.Leads limit m m') :
    m.world.calls.length ≤ m'.world.calls.length := by
  refine leads.keeps (P := fun m' => m.world.calls.length ≤ m'.world.calls.length) ?_ (Nat.le_refl _)
  intro m₁ m₂ before event
  obtain ⟨made, goes⟩ := event.goes
  rw [goes.calls, List.length_append]
  exact Nat.le_trans before (Nat.le_add_right _ _)

/-! ### Every job that leaves a queue is asked about -/

theorem isAborted_start (e : Engine σ τ) {time : Nat} (job : Job) {w : World σ τ} (stop : w.isAborted time = true) :
    (e.start time job w).2.isAborted time = true := by
  rw [start, attempt_of_aborted e stop]
  exact stop

theorem start_asks (e : Engine σ τ) {time : Nat} (job : Job) {w : World σ τ} (going : w.isAborted time = false) :
    (e.start time job w).2.calls.length = w.calls.length + 1 := by
  rw [start, attempt_of_not_aborted e going]
  exact List.length_append

theorem isAborted_launch (e : Engine σ τ) {time : Nat} (job : Job) {w : World σ τ} (stop : w.isAborted time = true) :
    (e.launch time job w).2.isAborted time = true := by
  have proceeds : e.Leads 0 _ _ := proceed_leads e time (e.start time job w).1 0 (e.start time job w).2
  exact proceeds.aborted (isAborted_start e job stop)

theorem launch_asks (e : Engine σ τ) {time : Nat} (job : Job) {w : World σ τ} (going : w.isAborted time = false) :
    w.calls.length + 1 ≤ (e.launch time job w).2.calls.length := by
  have proceeds : e.Leads 0 _ _ := proceed_leads e time (e.start time job w).1 0 (e.start time job w).2
  rw [← start_asks e job going]
  exact proceeds.length_calls_le

theorem isAborted_fill (e : Engine σ τ) {time : Nat} (g : Group) (queue : List Job) {w : World σ τ}
    (stop : w.isAborted time = true) : (e.fill time g queue w).2.isAborted time = true := by
  induction queue generalizing g w with
  | nil => exact stop
  | cons job rest ih =>
    unfold fill
    split
    · have stop' := isAborted_launch e job stop
      generalize e.launch time job w = next at stop'
      obtain ⟨c | v, w'⟩ := next
      · exact ih _ stop'
      · exact ih _ stop'
    · exact stop

theorem going_before_fill (e : Engine σ τ) {time : Nat} {g : Group} {queue : List Job} {w : World σ τ}
    (going : (e.fill time g queue w).2.isAborted time = false) : w.isAborted time = false := by
  cases stop : w.isAborted time with
  | false => rfl
  | true => exact absurd (isAborted_fill e g queue stop) (by simp [going])

theorem fill_asks (e : Engine σ τ) {time : Nat} (g : Group) (queue : List Job) {w : World σ τ}
    (going : (e.fill time g queue w).2.isAborted time = false) :
    w.calls.length + queue.length ≤ (e.fill time g queue w).2.calls.length + (e.fill time g queue w).1.queue.length := by
  induction queue generalizing g w with
  | nil => exact Nat.le_refl _
  | cons job rest ih =>
    have asked := launch_asks e job (going_before_fill e going)
    rw [List.length_cons]
    unfold fill at going ⊢
    split at going
    · rename_i room
      rw [if_pos room]
      generalize e.launch time job w = next at asked going ⊢
      obtain ⟨c | v, w'⟩ := next
      · have others := ih { g with running := g.running ++ [c] } going
        dsimp only at asked others ⊢
        omega
      · have others := ih { g with finished := (job.key, v) :: g.finished } going
        dsimp only at asked others ⊢
        omega
    · rename_i full
      rw [if_neg full]
      exact Nat.le_refl _

theorem tick_asks (e : Engine σ τ) {time : Nat} {g : Group} {w : World σ τ}
    (going : (e.tick time g w).2.isAborted time = false) :
    w.calls.length + g.queue.length ≤ (e.tick time g w).2.calls.length + (e.tick time g w).1.queue.length := by
  have stepped : e.Leads 0 _ _ := stepDue_leads e time g.running 0 w
  have grown := stepped.length_calls_le
  exact Nat.le_trans (Nat.add_le_add_right grown _) (fill_asks e _ _ going)

/-! ### Batches -/

def queuedIn (opened : List (Nat × Group)) : Nat := total (fun x => x.2.queue.length) opened

/-- The queue of a group waits only while there is no room. -/
def Crowded (g : Group) : Prop := 0 < g.bound ∧ (g.queue ≠ [] → g.bound ≤ g.running.length)

theorem Crowded.tick {time : Nat} {g : Group} {w : World σ τ} (crowded : Crowded g) : Crowded (e.tick time g w).1 := by
  obtain ⟨_, bound, full⟩ := tick_shape e time g w
  rw [Crowded, bound]
  exact ⟨crowded.1, full⟩

theorem Crowded.of_idle {g : Group} (crowded : Crowded g) (idle : g.running = []) : g.queue = [] := by
  apply Classical.byContradiction
  intro some
  have full := crowded.2 some
  rw [idle] at full
  exact absurd (Nat.lt_of_lt_of_le crowded.1 full) (Nat.lt_irrefl 0)

theorem crowded_tickAll (e : Engine σ τ) (time : Nat) {opened : List (Nat × Group)} (w : World σ τ)
    (crowded : ∀ x ∈ opened, Crowded x.2) : ∀ x ∈ (e.tickAll time opened w).1, Crowded x.2 := by
  induction opened generalizing w with
  | nil => simp [tickAll]
  | cons next rest ih =>
    obtain ⟨i, g⟩ := next
    have first : Crowded (e.tick time g w).1 := (crowded (i, g) List.mem_cons_self).tick
    have others := ih (e.tick time g w).2 fun x member => crowded x (List.mem_cons_of_mem _ member)
    rw [tickAll_cons]
    split
    · exact others
    · intro x member
      rcases List.mem_cons.mp member with rfl | later
      · exact first
      · exact others x later

theorem tickAll_asks (e : Engine σ τ) {time bound : Nat} {opened : List (Nat × Group)} {w : World σ τ}
    (orderly : ∀ x ∈ opened, Orderly bound x.2) (going : (e.tickAll time opened w).2.2.isAborted time = false) :
    w.calls.length + queuedIn opened ≤
      (e.tickAll time opened w).2.2.calls.length + queuedIn (e.tickAll time opened w).1 := by
  induction opened generalizing w with
  | nil => exact Nat.le_refl _
  | cons next rest ih =>
    obtain ⟨i, g⟩ := next
    have orderlyRest : ∀ x ∈ rest, Orderly bound x.2 := fun x member => orderly x (List.mem_cons_of_mem _ member)
    have same : (e.tickAll time ((i, g) :: rest) w).2.2 = (e.tickAll time rest (e.tick time g w).2).2.2 := by
      rw [tickAll_cons]
      split
      · rfl
      · rfl
    have room : rest.length * bound + (0 : Multiset Check).card ≤ rest.length * bound := by
      rw [Multiset.card_zero, Nat.add_zero]
    have later := (tickAll_leads e time (e.tick time g w).2 orderlyRest room).1
    rw [same] at going ⊢
    -- What the other groups do comes later, so it leads from a world that is not aborted yet.
    have first := tick_asks e (later.going_before going)
    have others := ih orderlyRest going
    have split : queuedIn ((i, g) :: rest) = g.queue.length + queuedIn rest := rfl
    have queued : queuedIn (e.tickAll time ((i, g) :: rest) w).1 =
        (e.tick time g w).1.queue.length + queuedIn (e.tickAll time rest (e.tick time g w).2).1 := by
      rw [tickAll_cons]
      split
      · rename_i done
        simp only [Group.isDone, Bool.and_eq_true, List.isEmpty_iff] at done
        rw [done.1, List.length_nil, Nat.zero_add]
      · rfl
    rw [queued, split]
    omega

theorem jump_of_all_open (e : Engine σ τ) (time : Nat) {b : Batch} (w : World σ τ) (none : b.waiting = []) :
    e.jump time b w =
      ({ b with
          clock := time
          waiting := []
          opened := (e.tickAll time b.opened w).1
          closed := (e.tickAll time b.opened w).2.1 ++ b.closed }, (e.tickAll time b.opened w).2.2) := by
  rw [jump, none]
  rfl

theorem finish_asks (e : Engine σ τ) {b : Batch} {w : World σ τ} (tidy : Tidy b)
    (timely : ∀ c ∈ runningIn b.opened, b.clock ≤ c.due) (crowded : ∀ x ∈ b.opened, Crowded x.2) (none : b.waiting = [])
    (going : (e.finish b w).2.isAborted (e.finish b w).1.clock = false) :
    w.calls.length + queuedIn b.opened ≤ (e.finish b w).2.calls.length := by
  induction steps : b.work e.retry.attempts using Nat.strongRecOn generalizing b w with
  | ind n ih =>
    rw [finish] at going ⊢
    split at going
    · rename_i idle
      have still : ∀ x ∈ b.opened, x.2.running = [] := by
        rw [Batch.nextDue?, List.min?_eq_none_iff, List.flatMap_eq_nil_iff] at idle
        exact fun x member => List.map_eq_nil_iff.mp (idle x member)
      -- Where nothing goes on there is room, so no queue is left.
      have empty : queuedIn b.opened = 0 := by
        apply total_eq_zero
        intro x member
        rw [(crowded x member).of_idle (still x member), List.length_nil]
      rw [empty]
      exact Nat.le_refl _
    · rename_i time next
      obtain ⟨jumped, tidy', width, bound⟩ := jump_leads e w tidy (Nat.le_refl _) timely next
      have timely' := jumped.keeps (P := Timely) Event.timely timely
      have room : (e.jump time b w).1.width * (e.jump time b w).1.bound ≤ b.width * b.bound := by
        rw [width, bound]
      -- The run is not aborted at the end, so it is not aborted after this jump either.
      have going' := (finish_leads e (e.jump time b w).2 tidy' room timely').going_before going
      have lesser := work_jump_lt e w next
      have jump := jump_of_all_open e time w none
      generalize e.jump time b w = following at tidy' timely' going going' lesser jump ⊢
      obtain rfl := jump
      have finished := ih _ (steps ▸ lesser) tidy' timely' (crowded_tickAll e time w crowded) rfl going rfl
      exact Nat.le_trans (tickAll_asks e tidy.opened going') finished

/-! ### Whole runs -/

/-- A run that is not aborted by its end makes a call for each job. -/
theorem run_asks (e : Engine σ τ) {tasks : List Task} {concurrency : Nat} (positive : 0 < concurrency) {w w' : World σ τ}
    {verdicts : List Verdict} {elapsed : Nat} (ended : e.run tasks concurrency w = .ok ((verdicts, elapsed), w'))
    (going : w'.isAborted elapsed = false) :
    w.calls.length + (Group.jobsOf (e.slotsFrom tasks w.store)).length ≤ w'.calls.length := by
  have tidy : Tidy { width := 1, bound := concurrency } := ⟨by simp, Nat.zero_le 1⟩
  obtain ⟨begun, tidy'⟩ := openWaiting_leads e [(0, tasks)] w tidy (Nat.le_refl _)
  have timely := begun.keeps (P := Timely) Event.timely fun c member => absurd member (Multiset.notMem_zero c)
  obtain ⟨opened, closed, alone, opens⟩ := openWaiting_alone e concurrency tasks w
  rw [run_alone e positive w alone, Except.ok.injEq, Prod.mk.injEq, Prod.mk.injEq] at ended
  obtain ⟨⟨_, rfl⟩, rfl⟩ := ended
  rw [alone] at tidy' timely
  have queued : queuedIn opened = (e.openGroup 0 concurrency tasks w).1.queue.length := by
    rcases opens with ⟨rfl, done⟩ | rfl
    · simp only [Group.isDone, Bool.and_eq_true, List.isEmpty_iff] at done
      rw [done.1]
      rfl
    · rfl
  have crowded : ∀ x ∈ opened, Crowded x.2 := by
    intro x member
    obtain ⟨_, bound, full⟩ := fill_shape e 0 { slots := (e.assign [] tasks w).1, bound := concurrency, queue := [] }
      (Group.jobsOf (e.assign [] tasks w).1) (e.assign [] tasks w).2
    rcases opens with ⟨rfl, _⟩ | rfl
    · exact absurd member List.not_mem_nil
    · rw [List.mem_singleton.mp member, openGroup, Crowded, bound]
      exact ⟨positive, full⟩
  have asked := finish_asks e tidy' timely crowded rfl going
  have going' := (finish_leads e (e.openGroup 0 concurrency tasks w).2 tidy' (Nat.le_refl _) timely).going_before going
  obtain ⟨_, _, _, calls, _⟩ := assign_alike e [] tasks w
  dsimp only at asked going'
  rw [queued] at asked
  unfold openGroup at asked going'
  have filled := fill_asks e _ _ going'
  have all := Nat.le_trans filled asked
  rw [calls, assign_slots] at all
  exact all

/-! ### No run makes more calls than attempts -/

theorem After.length_le {stopped : Nat → Prop} {job : Job} {calls : List Call} {v : Verdict}
    (after : e.After stopped job calls (.inr v)) : calls.length ≤ e.retry.attempts := by
  generalize ended : (Sum.inr v : Progress) = p at after
  cases after with
  | resting => exact absurd ended (by simp)
  | calling => exact absurd ended (by simp)
  | judged passed asks concluded =>
    rw [List.length_append]
    exact passed.length_lt
  | failed passed asks concluded =>
    rw [List.length_append]
    exact passed.length_lt
  | cancelled passed stop => exact Nat.le_of_lt passed.length_lt

section Places

variable {stopped : Nat → Prop} {tasks : List Task} {w w' : World σ τ} {results : Key → Verdict} {verdicts : List Verdict}

theorem Ran.length_calls_le (ran : e.Ran stopped tasks w w' results verdicts) :
    (w'.callsSince w).length ≤ (Group.jobsOf (e.slotsFrom tasks w.store)).length * e.retry.attempts := by
  have served : ∀ v t, (Verdict.servedTo v t).calls = 0 := fun v t => (v.free_servedTo t).calls
  have shared : ∀ v t, (Verdict.sharedWith v t).calls = 0 := fun v t => (v.free_sharedWith t).calls
  rw [← ran.calls_billed, Verdict.count_fold verdicts Verdict.calls (fun _ _ => rfl) rfl, ran.verdicts,
    total_verdictOf served shared]
  refine total_le fun job member => ?_
  have after := (ran.finished job member).1
  rw [after.bills.calls]
  exact after.length_le

end Places

end Engine

end PolicyLint
