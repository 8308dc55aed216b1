import Mathlib.Algebra.Order.Group.Multiset
import Mathlib.Logic.Relation
import PolicyLint.Proofs.Run.Course

/-!
# The moments of a run

A run goes from moment to moment: a key is looked up, a check starts or takes a step, time passes, or
something is noted or saved. `runGroups_leads` says that every run is made of such events, and that its
bounds leave room for each check that starts.
-/

namespace PolicyLint

/-- The time, the checks that go on, and the world. -/
structure Moment (σ τ : Type) where
  time : Nat
  running : Multiset Check
  world : World σ τ

namespace Engine

variable {σ τ : Type}

def onward : Progress → Multiset Check → Multiset Check
  | .inl c, others => c ::ₘ others
  | .inr _, others => others

theorem add_onward (p : Progress) (a b : Multiset Check) : a + onward p b = onward p (a + b) := by
  cases p with
  | inl c => exact Multiset.add_cons c a b
  | inr v => rfl

theorem mem_onward {p : Progress} {others : Multiset Check} {c : Check} (member : c ∈ onward p others) :
    p = .inl c ∨ c ∈ others := by
  cases p with
  | inl c' => exact (Multiset.mem_cons.mp member).imp (fun same => by rw [same]) id
  | inr v => exact Or.inr member

/-- What happens between one moment and the next. At most `limit` checks go on at once. -/
inductive Event (e : Engine σ τ) (limit : Nat) : Moment σ τ → Moment σ τ → Prop where
  | lookup (m : Moment σ τ) (key : Key) : Event e limit m { m with world := (e.lookup key m.world).2 }
  | start (m : Moment σ τ) {job : Job} (keyed : job.key = job.task.key) (room : m.running.card < limit) :
      Event e limit m
        { m with
          running := onward (e.start m.time job m.world).1 m.running
          world := (e.start m.time job m.world).2 }
  | step (m : Moment σ τ) {c : Check} {others : Multiset Check} (runs : m.running = c ::ₘ others)
      (due : c.due ≤ m.time) :
      Event e limit m
        { m with
          running := onward (e.step m.time c m.world).1 others
          world := (e.step m.time c m.world).2 }
  | wait (m : Moment σ τ) {time : Nat} (later : m.time ≤ time) (early : ∀ c ∈ m.running, time ≤ c.due) :
      Event e limit m { m with time }
  | note (m : Moment σ τ) (notices : List Notice) : Event e limit m { m with world := { m.world with notices } }
  | save (m : Moment σ τ) :
      Event e limit m { m with world := { m.world with store := (e.store.flush m.world.store).2 } }

abbrev Leads (e : Engine σ τ) (limit : Nat) : Moment σ τ → Moment σ τ → Prop := Relation.ReflTransGen (e.Event limit)

variable {e : Engine σ τ} {limit : Nat}

/-- What every event keeps, every later moment has. -/
theorem Leads.keeps {P : Moment σ τ → Prop} (event : ∀ {m m' : Moment σ τ}, P m → e.Event limit m m' → P m')
    {m m' : Moment σ τ} (leads : e.Leads limit m m') (has : P m) : P m' := by
  induction leads with
  | refl => exact has
  | tail _ next ih => exact event ih next

/-! ### No check waits for the past -/

def Timely (m : Moment σ τ) : Prop := ∀ c ∈ m.running, m.time ≤ c.due

theorem timely_onward {time : Nat} {p : Progress} {others : Multiset Check} (goes : ∀ c, p = .inl c → time ≤ c.due)
    (timely : ∀ c ∈ others, time ≤ c.due) : ∀ c ∈ onward p others, time ≤ c.due := by
  intro c member
  rcases mem_onward member with new | old
  · exact goes c new
  · exact timely c old

theorem Event.timely {m m' : Moment σ τ} (timely : Timely m) (event : e.Event limit m m') : Timely m' := by
  cases event with
  | lookup key => exact timely
  | start keyed room => exact timely_onward (fun c goes => (start_inl e goes).2) timely
  | @step c others runs due =>
    refine timely_onward (fun c' goes => (step_inl e goes).2) ?_
    intro c' member
    exact timely c' (runs ▸ Multiset.mem_cons_of_mem member)
  | wait later early => exact early
  | note notices => exact timely
  | save => exact timely

/-! ### Lookups and checks -/

theorem assign_leads (e : Engine σ τ) (missed : List Key) (tasks : List Task) (m : Moment σ τ) :
    e.Leads limit m { m with world := (e.assign missed tasks m.world).2 } := by
  induction tasks generalizing missed m with
  | nil => exact .refl
  | cons task rest ih =>
    have first : e.Leads limit m { m with world := (e.lookup task.key m.world).2 } := .single (.lookup m task.key)
    rw [assign_cons]
    cases (e.lookup task.key m.world).1 with
    | some v => exact first.trans (ih missed _)
    | none => exact first.trans (ih (task.key :: missed) _)

theorem cons_add_coe (c : Check) (rest : List Check) (others : Multiset Check) :
    (↑(c :: rest) : Multiset Check) + others = c ::ₘ (rest + others) := by
  rw [← Multiset.cons_coe, Multiset.cons_add]

theorem proceed_leads (e : Engine σ τ) (time : Nat) (p : Progress) (others : Multiset Check) (w : World σ τ) :
    e.Leads limit ⟨time, onward p others, w⟩
      ⟨time, onward (e.proceed time p w).1 others, (e.proceed time p w).2⟩ := by
  refine proceed_keeps
    (P := fun p' w' => e.Leads limit ⟨time, onward p others, w⟩ ⟨time, onward p' others, w'⟩) ?_ .refl
  intro c w' due before
  exact before.tail (.step ⟨time, onward (.inl c) others, w'⟩ rfl due)

theorem stepDue_leads (e : Engine σ τ) (time : Nat) (checks : List Check) (others : Multiset Check) (w : World σ τ) :
    e.Leads limit ⟨time, checks + others, w⟩
      ⟨time, (e.stepDue time checks w).1 + others, (e.stepDue time checks w).2.2⟩ := by
  induction checks generalizing others w with
  | nil => exact .refl
  | cons c rest ih =>
    have first : e.Leads limit ⟨time, ↑(c :: rest) + others, w⟩
        ⟨time, rest + onward (e.proceed time (.inl c) w).1 others, (e.proceed time (.inl c) w).2⟩ := by
      rw [add_onward, cons_add_coe]
      exact proceed_leads e time (.inl c) (rest + others) w
    refine first.trans ?_
    have later := ih (onward (e.proceed time (.inl c) w).1 others) (e.proceed time (.inl c) w).2
    rcases went : e.proceed time (.inl c) w with ⟨c' | v, w'⟩
    · rw [went] at later
      simp only [stepDue, went]
      rw [cons_add_coe, ← Multiset.add_cons]
      exact later
    · rw [went] at later
      simp only [stepDue, went]
      exact later

theorem fill_leads (e : Engine σ τ) (time : Nat) (g : Group) {queue : List Job} {others : Multiset Check}
    (w : World σ τ) (room : g.bound + others.card ≤ limit) (keyed : ∀ job ∈ queue, job.key = job.task.key) :
    e.Leads limit ⟨time, g.running + others, w⟩
      ⟨time, (e.fill time g queue w).1.running + others, (e.fill time g queue w).2⟩ := by
  induction queue generalizing g w with
  | nil => exact .refl
  | cons job rest ih =>
    have keyedRest : ∀ job' ∈ rest, job'.key = job'.task.key :=
      fun job' member => keyed job' (List.mem_cons_of_mem _ member)
    unfold fill
    split
    · rename_i free
      have first : e.Leads limit ⟨time, g.running + others, w⟩
          ⟨time, onward (e.launch time job w).1 (g.running + others), (e.launch time job w).2⟩ := by
        refine .head (.start ⟨time, g.running + others, w⟩ (keyed job List.mem_cons_self) ?_) ?_
        · rw [Multiset.card_add, Multiset.coe_card]
          omega
        · exact proceed_leads e time _ _ _
      refine first.trans ?_
      rcases e.launch time job w with ⟨c | v, w'⟩
      · have later := ih { g with running := g.running ++ [c] } w' room keyedRest
        rw [← Multiset.coe_add, Multiset.coe_singleton, add_comm (g.running : Multiset Check) {c}, add_assoc,
          Multiset.singleton_add] at later
        exact later
      · exact ih { g with finished := (job.key, v) :: g.finished } w' room keyedRest
    · exact .refl

/-! ### Groups -/

/-- A group that has a bound and keeps to it. -/
structure Orderly (bound : Nat) (g : Group) : Prop where
  same : g.bound = bound
  room : g.running.length ≤ bound
  keyed : ∀ job ∈ g.queue, job.key = job.task.key

theorem length_stepDue_le (e : Engine σ τ) (time : Nat) (checks : List Check) (w : World σ τ) :
    (e.stepDue time checks w).1.length ≤ checks.length := by
  induction checks generalizing w with
  | nil => exact Nat.le_refl 0
  | cons c rest ih =>
    unfold stepDue
    split
    · exact Nat.succ_le_succ (ih _)
    · exact Nat.le_succ_of_le (ih _)

theorem fill_orderly (e : Engine σ τ) (time : Nat) {bound : Nat} (g : Group) (queue : List Job) (w : World σ τ)
    (orderly : Orderly bound { g with queue }) : Orderly bound (e.fill time g queue w).1 := by
  induction queue generalizing g w with
  | nil => exact orderly
  | cons job rest ih =>
    have keyed : ∀ job' ∈ rest, job'.key = job'.task.key :=
      fun job' member => orderly.keyed job' (List.mem_cons_of_mem _ member)
    unfold fill
    split
    · rename_i free
      have longer : g.running.length + 1 ≤ bound := orderly.same ▸ free
      rcases e.launch time job w with ⟨c | v, w'⟩
      · exact ih { g with running := g.running ++ [c] } w' ⟨orderly.same, by simpa using longer, keyed⟩
      · exact ih { g with finished := (job.key, v) :: g.finished } w' ⟨orderly.same, orderly.room, keyed⟩
    · exact orderly

theorem tick_leads (e : Engine σ τ) (time : Nat) {bound : Nat} {g : Group} {others : Multiset Check} (w : World σ τ)
    (orderly : Orderly bound g) (room : bound + others.card ≤ limit) :
    e.Leads limit ⟨time, g.running + others, w⟩ ⟨time, (e.tick time g w).1.running + others, (e.tick time g w).2⟩ ∧
      Orderly bound (e.tick time g w).1 := by
  have fewer := length_stepDue_le e time g.running w
  obtain ⟨sameBound, few, keyed⟩ := orderly
  refine ⟨(stepDue_leads e time g.running others w).trans ?_, ?_⟩
  · exact fill_leads e time
      { g with running := (e.stepDue time g.running w).1, finished := (e.stepDue time g.running w).2.1 ++ g.finished }
      (e.stepDue time g.running w).2.2 (by rw [sameBound]; exact room) keyed
  · exact fill_orderly e time
      { g with running := (e.stepDue time g.running w).1, finished := (e.stepDue time g.running w).2.1 ++ g.finished }
      g.queue (e.stepDue time g.running w).2.2 ⟨sameBound, Nat.le_trans fewer few, keyed⟩

theorem openGroup_leads (e : Engine σ τ) (time bound : Nat) (tasks : List Task) {others : Multiset Check} (w : World σ τ)
    (room : bound + others.card ≤ limit) :
    e.Leads limit ⟨time, others, w⟩
        ⟨time, (e.openGroup time bound tasks w).1.running + others, (e.openGroup time bound tasks w).2⟩ ∧
      Orderly bound (e.openGroup time bound tasks w).1 := by
  have keyed : ∀ job ∈ Group.jobsOf (e.assign [] tasks w).1, job.key = job.task.key := by
    intro job member
    rw [assign_slots] at member
    obtain ⟨t, _, rfl⟩ := mem_jobsOf_slotsOf member
    rfl
  refine ⟨(assign_leads e [] tasks ⟨time, others, w⟩).trans ?_, ?_⟩
  · have filled := fill_leads e time { slots := (e.assign [] tasks w).1, bound, queue := [] } (e.assign [] tasks w).2
      room keyed
    rw [Multiset.coe_nil, zero_add] at filled
    exact filled
  · exact fill_orderly e time { slots := (e.assign [] tasks w).1, bound, queue := [] } _ _
      ⟨rfl, Nat.zero_le bound, keyed⟩

/-! ### Batches -/

def runningIn (opened : List (Nat × Group)) : Multiset Check := opened.flatMap fun x => x.2.running

theorem runningIn_cons (x : Nat × Group) (rest : List (Nat × Group)) :
    runningIn (x :: rest) = x.2.running + runningIn rest := by
  rw [runningIn, List.flatMap_cons, ← Multiset.coe_add]
  rfl

theorem card_runningIn_le {bound : Nat} {opened : List (Nat × Group)} (orderly : ∀ x ∈ opened, Orderly bound x.2) :
    (runningIn opened).card ≤ opened.length * bound := by
  induction opened with
  | nil => exact Nat.zero_le _
  | cons x rest ih =>
    have first := (orderly x List.mem_cons_self).room
    have others := ih fun y member => orderly y (List.mem_cons_of_mem _ member)
    rw [runningIn_cons, Multiset.card_add, Multiset.coe_card, List.length_cons, Nat.succ_mul]
    omega

theorem tickAll_leads (e : Engine σ τ) (time : Nat) {bound : Nat} {opened : List (Nat × Group)} {others : Multiset Check}
    (w : World σ τ) (orderly : ∀ x ∈ opened, Orderly bound x.2)
    (room : opened.length * bound + others.card ≤ limit) :
    e.Leads limit ⟨time, runningIn opened + others, w⟩
        ⟨time, runningIn (e.tickAll time opened w).1 + others, (e.tickAll time opened w).2.2⟩ ∧
      (∀ x ∈ (e.tickAll time opened w).1, Orderly bound x.2) ∧
      (e.tickAll time opened w).1.length ≤ opened.length := by
  induction opened generalizing others w with
  | nil => exact ⟨.refl, by simp [tickAll], Nat.le_refl 0⟩
  | cons next rest ih =>
    obtain ⟨i, g⟩ := next
    have orderlyRest : ∀ x ∈ rest, Orderly bound x.2 := fun x member => orderly x (List.mem_cons_of_mem _ member)
    have fewRest := card_runningIn_le orderlyRest
    rw [List.length_cons, Nat.succ_mul] at room
    -- While this group ticks, the checks of the groups behind it are among the others.
    have roomFirst : bound + (runningIn rest + others).card ≤ limit := by
      rw [Multiset.card_add]
      omega
    obtain ⟨ticked, orderly'⟩ := tick_leads e time w (orderly (i, g) List.mem_cons_self) roomFirst
    have few : (e.tick time g w).1.running.length ≤ bound := orderly'.room
    have roomRest : rest.length * bound + (↑(e.tick time g w).1.running + others).card ≤ limit := by
      rw [Multiset.card_add, Multiset.coe_card]
      omega
    obtain ⟨later, orderlyEnd, fewer⟩ := ih (e.tick time g w).2 orderlyRest roomRest
    rw [add_left_comm] at later
    have both := ticked.trans later
    rw [tickAll_cons, runningIn_cons, add_assoc]
    split
    · rename_i done
      have still : (e.tick time g w).1.running = [] := by
        simp only [Group.isDone, Bool.and_eq_true, List.isEmpty_iff] at done
        exact done.2
      rw [still, Multiset.coe_nil, zero_add] at both
      exact ⟨both, orderlyEnd, Nat.le_succ_of_le fewer⟩
    · rw [runningIn_cons (i, (e.tick time g w).1), add_assoc, add_left_comm ((e.tick time g w).1.running : Multiset Check)]
      refine ⟨both, ?_, Nat.succ_le_succ fewer⟩
      intro x member
      rcases List.mem_cons.mp member with rfl | member
      · exact orderly'
      · exact orderlyEnd x member

structure Tidy (b : Batch) : Prop where
  opened : ∀ x ∈ b.opened, Orderly b.bound x.2
  few : b.opened.length ≤ b.width

theorem openWaiting_shape (e : Engine σ τ) (b : Batch) (waiting : List (Nat × List Task)) (w : World σ τ) :
    (e.openWaiting b waiting w).1.clock = b.clock ∧ (e.openWaiting b waiting w).1.width = b.width ∧
      (e.openWaiting b waiting w).1.bound = b.bound := by
  induction waiting generalizing b w with
  | nil => exact ⟨rfl, rfl, rfl⟩
  | cons next rest ih =>
    unfold openWaiting
    split
    · dsimp only
      split
      · exact ih _ _
      · exact ih _ _
    · exact ⟨rfl, rfl, rfl⟩

theorem openWaiting_leads (e : Engine σ τ) {b : Batch} (waiting : List (Nat × List Task)) (w : World σ τ) (tidy : Tidy b)
    (room : b.width * b.bound ≤ limit) :
    e.Leads limit ⟨b.clock, runningIn b.opened, w⟩
        ⟨b.clock, runningIn (e.openWaiting b waiting w).1.opened, (e.openWaiting b waiting w).2⟩ ∧
      Tidy (e.openWaiting b waiting w).1 := by
  induction waiting generalizing b w with
  | nil => exact ⟨.refl, tidy.opened, tidy.few⟩
  | cons next rest ih =>
    obtain ⟨i, tasks⟩ := next
    by_cases free : b.opened.length < b.width
    · have held := card_runningIn_le tidy.opened
      -- The open groups keep to their bounds, so a free place is room for all checks of one more group.
      have share : b.opened.length * b.bound + b.bound ≤ b.width * b.bound := by
        rw [← Nat.succ_mul]
        exact Nat.mul_le_mul_right b.bound free
      have roomOne : b.bound + (runningIn b.opened).card ≤ limit := by omega
      obtain ⟨begun, orderly⟩ := openGroup_leads e b.clock b.bound tasks w roomOne
      rcases group : e.openGroup b.clock b.bound tasks w with ⟨g, w'⟩
      rw [group] at begun orderly
      by_cases done : g.isDone
      · have still : g.running = [] := by
          simp only [Group.isDone, Bool.and_eq_true, List.isEmpty_iff] at done
          exact done.2
        simp only [still, Multiset.coe_nil, zero_add] at begun
        obtain ⟨later, tidy'⟩ := ih (b := { b with closed := (i, g.verdicts) :: b.closed }) w' ⟨tidy.opened, tidy.few⟩ room
        simp only [openWaiting, if_pos free, group, if_pos done]
        exact ⟨begun.trans later, tidy'⟩
      · have grown : runningIn (b.opened ++ [(i, g)]) = g.running + runningIn b.opened := by
          rw [runningIn, List.flatMap_append, List.flatMap_singleton, ← Multiset.coe_add, add_comm]
          rfl
        have wider : Tidy { b with opened := b.opened ++ [(i, g)] } := by
          refine ⟨?_, by simpa [Nat.succ_le_iff] using free⟩
          intro x member
          rcases List.mem_append.mp member with member | member
          · exact tidy.opened x member
          · rw [List.mem_singleton.mp member]
            exact orderly
        obtain ⟨later, tidy'⟩ := ih w' wider room
        simp only [openWaiting, if_pos free, group, if_neg done]
        exact ⟨begun.trans (grown ▸ later), tidy'⟩
    · simp only [openWaiting, if_neg free]
      exact ⟨.refl, tidy.opened, tidy.few⟩

theorem jump_leads (e : Engine σ τ) {b : Batch} {time : Nat} (w : World σ τ) (tidy : Tidy b)
    (room : b.width * b.bound ≤ limit) (timely : ∀ c ∈ runningIn b.opened, b.clock ≤ c.due)
    (next : b.nextDue? = some time) :
    e.Leads limit ⟨b.clock, runningIn b.opened, w⟩
        ⟨(e.jump time b w).1.clock, runningIn (e.jump time b w).1.opened, (e.jump time b w).2⟩ ∧
      Tidy (e.jump time b w).1 ∧ (e.jump time b w).1.width = b.width ∧ (e.jump time b w).1.bound = b.bound := by
  have running : ∀ x ∈ b.opened, ∀ c ∈ x.2.running, c ∈ runningIn b.opened :=
    fun x member c there => Multiset.mem_coe.mpr (List.mem_flatMap.mpr ⟨x, member, there⟩)
  have later : b.clock ≤ time := by
    obtain ⟨x, member, c, there, due⟩ := Batch.exists_due_of_nextDue? next
    exact Nat.le_trans (timely c (running x member c there)) due
  have early : ∀ c ∈ runningIn b.opened, time ≤ c.due := by
    intro c member
    obtain ⟨x, there, here⟩ := List.mem_flatMap.mp (Multiset.mem_coe.mp member)
    exact nextDue_le next x there c here
  have waited : e.Leads limit ⟨b.clock, runningIn b.opened, w⟩ ⟨time, runningIn b.opened, w⟩ :=
    .single (.wait ⟨b.clock, runningIn b.opened, w⟩ later early)
  have few := Nat.mul_le_mul_right b.bound tidy.few
  have roomOpened : b.opened.length * b.bound + (0 : Multiset Check).card ≤ limit := by
    rw [Multiset.card_zero]
    omega
  obtain ⟨ticked, orderly, fewer⟩ := tickAll_leads e time w tidy.opened roomOpened
  rw [add_zero, add_zero] at ticked
  obtain ⟨opens, tidy'⟩ := openWaiting_leads e b.waiting
    (b := { b with
      clock := time
      opened := (e.tickAll time b.opened w).1
      closed := (e.tickAll time b.opened w).2.1 ++ b.closed })
    (e.tickAll time b.opened w).2.2 ⟨orderly, Nat.le_trans fewer tidy.few⟩ room
  obtain ⟨clock, width, bound⟩ := openWaiting_shape e
    { b with
      clock := time
      opened := (e.tickAll time b.opened w).1
      closed := (e.tickAll time b.opened w).2.1 ++ b.closed } b.waiting (e.tickAll time b.opened w).2.2
  refine ⟨waited.trans (ticked.trans ?_), tidy', width, bound⟩
  show e.Leads limit _ ⟨(e.openWaiting _ b.waiting _).1.clock, _, _⟩
  rw [clock]
  exact opens

theorem runningIn_of_idle {b : Batch} (idle : b.nextDue? = none) : runningIn b.opened = 0 := by
  rw [Batch.nextDue?, List.min?_eq_none_iff, List.flatMap_eq_nil_iff] at idle
  rw [runningIn, Multiset.coe_eq_zero, List.flatMap_eq_nil_iff]
  exact fun x member => List.map_eq_nil_iff.mp (idle x member)

theorem finish_leads (e : Engine σ τ) {b : Batch} (w : World σ τ) (tidy : Tidy b) (room : b.width * b.bound ≤ limit)
    (timely : ∀ c ∈ runningIn b.opened, b.clock ≤ c.due) :
    e.Leads limit ⟨b.clock, runningIn b.opened, w⟩ ⟨(e.finish b w).1.clock, 0, (e.finish b w).2⟩ := by
  induction steps : b.work e.retry.attempts using Nat.strongRecOn generalizing b w with
  | ind n ih =>
    rw [finish]
    split
    · rename_i idle
      rw [runningIn_of_idle idle]
    · rename_i time next
      obtain ⟨jumped, tidy', width, bound⟩ := jump_leads e w tidy room timely next
      have timely' := jumped.keeps (P := Timely) Event.timely timely
      refine jumped.trans (ih _ ?_ _ tidy' (by rw [width, bound]; exact room) timely' rfl)
      rw [← steps]
      exact work_jump_lt e w next

/-- Every run is made of events, and no more checks go on at once than its bounds allow together. -/
theorem runGroups_leads (e : Engine σ τ) (width bound : Nat) (groups : List (List Task)) (w : World σ τ) :
    e.Leads (width * bound) ⟨0, 0, w⟩
      ⟨(e.runGroups width bound groups w).1.2, 0, (e.runGroups width bound groups w).2⟩ := by
  have tidy : Tidy { width, bound } := ⟨by simp, Nat.zero_le width⟩
  have room : width * bound ≤ width * bound := Nat.le_refl _
  obtain ⟨begun, tidy'⟩ := openWaiting_leads e ((List.range groups.length).zip groups) w tidy room
  obtain ⟨clock, sameWidth, sameBound⟩ :=
    openWaiting_shape e { width, bound } ((List.range groups.length).zip groups) w
  have timely := begun.keeps (P := Timely) Event.timely (fun c member => absurd member (Multiset.notMem_zero c))
  have room' : (e.openWaiting { width, bound } ((List.range groups.length).zip groups) w).1.width *
      (e.openWaiting { width, bound } ((List.range groups.length).zip groups) w).1.bound ≤ width * bound := by
    rw [sameWidth, sameBound]
  have ended := finish_leads e (e.openWaiting { width, bound } ((List.range groups.length).zip groups) w).2 tidy' room'
    (by rw [clock]; exact timely)
  rw [clock] at ended
  exact begun.trans ended

theorem run_leads {tasks : List Task} {concurrency : Nat} {w w' : World σ τ} {verdicts : List Verdict} {elapsed : Nat}
    (ended : e.run tasks concurrency w = .ok ((verdicts, elapsed), w')) :
    e.Leads concurrency ⟨0, 0, w⟩ ⟨elapsed, 0, w'⟩ := by
  have leads := e.runGroups_leads 1 concurrency [tasks] w
  rw [Nat.one_mul] at leads
  unfold run at ended
  split at ended
  · exact absurd ended (by simp)
  · rw [Except.ok.injEq, Prod.mk.injEq, Prod.mk.injEq] at ended
    obtain ⟨⟨_, rfl⟩, rfl⟩ := ended
    exact leads

/-! ### Runs of one group -/

theorem openWaiting_alone (e : Engine σ τ) (bound : Nat) (tasks : List Task) (w : World σ τ) :
    ∃ opened closed, e.openWaiting { width := 1, bound } [(0, tasks)] w =
        ({ width := 1, bound, opened, closed }, (e.openGroup 0 bound tasks w).2) ∧
      (opened = [] ∧ (e.openGroup 0 bound tasks w).1.isDone = true ∨ opened = [(0, (e.openGroup 0 bound tasks w).1)]) := by
  by_cases done : (e.openGroup 0 bound tasks w).1.isDone
  · exact ⟨[], [(0, (e.openGroup 0 bound tasks w).1.verdicts)], by simp [openWaiting, done], Or.inl ⟨rfl, done⟩⟩
  · exact ⟨[(0, (e.openGroup 0 bound tasks w).1)], [], by simp [openWaiting, done], Or.inr rfl⟩

theorem run_alone (e : Engine σ τ) {tasks : List Task} {concurrency : Nat} (positive : 0 < concurrency) (w : World σ τ)
    {b : Batch} {w₀ : World σ τ} (begun : e.openWaiting { width := 1, bound := concurrency } [(0, tasks)] w = (b, w₀)) :
    e.run tasks concurrency w =
      .ok ((((e.finish b w₀).1.verdicts 1).flatten, (e.finish b w₀).1.clock), (e.finish b w₀).2) := by
  rw [run, if_neg (Nat.ne_of_gt positive), runGroups]
  simp only [List.length_singleton, List.range_succ, List.range_zero, List.nil_append, List.zip_cons_cons, List.zip_nil_right,
    begun]

/-- A run passes the moment at which its tasks are looked up and as many checks go on as may. -/
theorem run_opened (e : Engine σ τ) {tasks : List Task} {concurrency : Nat} (positive : 0 < concurrency) {w w' : World σ τ}
    {verdicts : List Verdict} {elapsed : Nat} (ended : e.run tasks concurrency w = .ok ((verdicts, elapsed), w')) :
    ∃ m : Moment σ τ, m.time = 0 ∧ m.world = (e.openGroup 0 concurrency tasks w).2 ∧
      e.Leads concurrency ⟨0, 0, w⟩ m ∧ e.Leads concurrency m ⟨elapsed, 0, w'⟩ := by
  have tidy : Tidy { width := 1, bound := concurrency } := ⟨by simp, Nat.zero_le 1⟩
  have room : 1 * concurrency ≤ concurrency := Nat.le_of_eq (Nat.one_mul concurrency)
  obtain ⟨begun, tidy'⟩ := openWaiting_leads e [(0, tasks)] w tidy room
  have timely := begun.keeps (P := Timely) Event.timely fun c member => absurd member (Multiset.notMem_zero c)
  obtain ⟨opened, closed, alone, _⟩ := openWaiting_alone e concurrency tasks w
  rw [run_alone e positive w alone, Except.ok.injEq, Prod.mk.injEq, Prod.mk.injEq] at ended
  obtain ⟨⟨_, rfl⟩, rfl⟩ := ended
  rw [alone] at begun tidy' timely
  exact ⟨_, rfl, rfl, begun, finish_leads e (e.openGroup 0 concurrency tasks w).2 tidy' room timely⟩

end Engine

end PolicyLint
