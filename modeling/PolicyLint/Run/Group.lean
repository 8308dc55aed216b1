import PolicyLint.Run.Check

/-!
# Groups

A group is a list of tasks that run together. When it opens, the store is asked once for each task. Of
the tasks with a key that the store does not answer, the first one is checked and the others share its
verdict. Checks start in order, at most a fixed count of them at once.
-/

namespace PolicyLint

inductive Origin where
  | served (v : Verdict)
  | checked
  | shared
  deriving DecidableEq, Repr

/-- A task with its key and the origin of its verdict. -/
structure Slot where
  task : Task
  key : Key
  origin : Origin

structure Group where
  slots : List Slot
  /-- How many checks may go on at once. -/
  bound : Nat
  queue : List Job
  running : List Check := []
  finished : List (Key × Verdict) := []

namespace Group

def isDone (g : Group) : Bool := g.queue.isEmpty && g.running.isEmpty

def jobsOf (slots : List Slot) : List Job :=
  slots.filterMap fun s =>
    match s.origin with
    | .checked => some { task := s.task, key := s.key }
    | _ => none

def finishedAt (g : Group) (key : Key) : Verdict := (g.finished.lookup key).getD {}

def verdicts (g : Group) : List Verdict :=
  g.slots.map fun s =>
    match s.origin with
    | .served v => v.servedTo s.task
    | .checked => g.finishedAt s.key
    | .shared => (g.finishedAt s.key).sharedWith s.task

def nextDue? (g : Group) : Option Nat := (g.running.map (·.due)).min?

end Group

namespace Engine

variable {σ τ : Type}

/-- The origins of verdicts, the keys missed so far being given. -/
def assign (e : Engine σ τ) (missed : List Key) : List Task → World σ τ → List Slot × World σ τ
  | [], w => ([], w)
  | task :: rest, w =>
    let key := task.key
    let (found, w) := e.lookup key w
    match found with
    | some v =>
      let (slots, w) := e.assign missed rest w
      ({ task, key, origin := .served v } :: slots, w)
    | none =>
      let origin := if missed.contains key then Origin.shared else .checked
      let (slots, w) := e.assign (key :: missed) rest w
      ({ task, key, origin } :: slots, w)

def fill (e : Engine σ τ) (time : Nat) (g : Group) : List Job → World σ τ → Group × World σ τ
  | [], w => ({ g with queue := [] }, w)
  | job :: rest, w =>
    if g.running.length < g.bound then
      match e.launch time job w with
      | (.inl c, w) => fill e time { g with running := g.running ++ [c] } rest w
      | (.inr v, w) => fill e time { g with finished := (job.key, v) :: g.finished } rest w
    else ({ g with queue := job :: rest }, w)

def openGroup (e : Engine σ τ) (time bound : Nat) (tasks : List Task) (w : World σ τ) :
    Group × World σ τ :=
  let (slots, w) := e.assign [] tasks w
  let g : Group := { slots, bound, queue := [] }
  e.fill time g (Group.jobsOf slots) w

/-- What becomes of some checks whose waits may be over: the checks that go on, and the verdicts of the
others. -/
def stepDue (e : Engine σ τ) (time : Nat) :
    List Check → World σ τ → List Check × List (Key × Verdict) × World σ τ
  | [], w => ([], [], w)
  | c :: rest, w =>
    match e.proceed time (.inl c) w with
    | (.inl c', w) =>
      let (checks, finished, w) := e.stepDue time rest w
      (c' :: checks, finished, w)
    | (.inr v, w) =>
      let (checks, finished, w) := e.stepDue time rest w
      (checks, (c.job.key, v) :: finished, w)

def tick (e : Engine σ τ) (time : Nat) (g : Group) (w : World σ τ) : Group × World σ τ :=
  let (running, finished, w) := e.stepDue time g.running w
  e.fill time { g with running, finished := finished ++ g.finished } g.queue w

end Engine

/-! ### Work of a group -/

namespace Group

def checksWork : List Check → Nat
  | [] => 0
  | c :: rest => c.work + checksWork rest

/-- The steps that a group can still take when each job has a given count of attempts. -/
def work (attempts : Nat) (g : Group) : Nat :=
  checksWork g.running + g.queue.length * (2 * attempts)

theorem checksWork_append (a b : List Check) :
    checksWork (a ++ b) = checksWork a + checksWork b := by
  induction a with
  | nil => simp [checksWork]
  | cons c rest ih => simp only [List.cons_append, checksWork, ih, Nat.add_assoc]

theorem checksWork_cons (c : Check) (rest : List Check) :
    checksWork (c :: rest) = c.work + checksWork rest := rfl

theorem length_jobsOf_le (slots : List Slot) : (jobsOf slots).length ≤ slots.length :=
  List.length_filterMap_le _ _

end Group

namespace Engine

variable {σ τ : Type}

theorem length_assign (e : Engine σ τ) (missed : List Key) (tasks : List Task) (w : World σ τ) :
    (e.assign missed tasks w).1.length = tasks.length := by
  induction tasks generalizing missed w with
  | nil => rfl
  | cons task rest ih =>
    simp only [assign]
    split
    · simp [ih]
    · simp [ih]

theorem work_fill_le (e : Engine σ τ) (time : Nat) (g : Group) (queue : List Job)
    (w : World σ τ) :
    (e.fill time g queue w).1.work e.retry.attempts ≤
      Group.checksWork g.running + queue.length * (2 * e.retry.attempts) := by
  induction queue generalizing g w with
  | nil => simp [fill, Group.work]
  | cons job rest ih =>
    unfold fill
    split
    · have started := workOf_launch e time job w
      split
      next c w' h =>
        rw [h] at started
        refine Nat.le_trans (ih _ _) ?_
        simp only [Group.checksWork_append, Group.checksWork_cons, workOf, List.length_cons,
          Nat.succ_mul] at started ⊢
        simp only [Group.checksWork]
        omega
      next v w' h =>
        refine Nat.le_trans (ih _ _) ?_
        simp only [List.length_cons, Nat.succ_mul]
        omega
    · simp [Group.work]

theorem checksWork_stepDue_le (e : Engine σ τ) (time : Nat) (checks : List Check)
    (w : World σ τ) :
    Group.checksWork (e.stepDue time checks w).1 ≤ Group.checksWork checks := by
  induction checks generalizing w with
  | nil => simp [stepDue]
  | cons c rest ih =>
    have used := workOf_proceed_le e time (.inl c) w
    unfold stepDue
    split
    next c' w' h =>
      rw [h] at used
      simp only [workOf] at used
      have others := ih w'
      simp only [Group.checksWork_cons]
      omega
    next v w' h =>
      have others := ih w'
      simp only [Group.checksWork_cons]
      omega

theorem checksWork_stepDue_lt (e : Engine σ τ) (time : Nat) (checks : List Check)
    (w : World σ τ) (someDue : ∃ c ∈ checks, c.due ≤ time) :
    Group.checksWork (e.stepDue time checks w).1 < Group.checksWork checks := by
  induction checks generalizing w with
  | nil => simp at someDue
  | cons c rest ih =>
    by_cases due : c.due ≤ time
    · have used := workOf_proceed_lt e w due
      unfold stepDue
      split
      next c' w' h =>
        rw [h] at used
        simp only [workOf] at used
        have others := checksWork_stepDue_le e time rest w'
        simp only [Group.checksWork_cons]
        omega
      next v w' h =>
        rw [h] at used
        simp only [workOf] at used
        have others := checksWork_stepDue_le e time rest w'
        simp only [Group.checksWork_cons]
        omega
    · obtain ⟨c', member, later⟩ := someDue
      rcases List.mem_cons.mp member with rfl | member
      · exact absurd later due
      have others := ih w ⟨c', member, later⟩
      simp only [stepDue, proceed_of_early e w due, Group.checksWork_cons]
      omega

theorem work_tick_le (e : Engine σ τ) (time : Nat) (g : Group) (w : World σ τ) :
    (e.tick time g w).1.work e.retry.attempts ≤ g.work e.retry.attempts := by
  have filled := work_fill_le e time
    { g with running := (e.stepDue time g.running w).1,
             finished := (e.stepDue time g.running w).2.1 ++ g.finished }
    g.queue (e.stepDue time g.running w).2.2
  have stepped := checksWork_stepDue_le e time g.running w
  refine Nat.le_trans filled ?_
  simp only [Group.work]
  omega

theorem work_tick_lt (e : Engine σ τ) (time : Nat) (g : Group) (w : World σ τ)
    (someDue : ∃ c ∈ g.running, c.due ≤ time) :
    (e.tick time g w).1.work e.retry.attempts < g.work e.retry.attempts := by
  have filled := work_fill_le e time
    { g with running := (e.stepDue time g.running w).1,
             finished := (e.stepDue time g.running w).2.1 ++ g.finished }
    g.queue (e.stepDue time g.running w).2.2
  have stepped := checksWork_stepDue_lt e time g.running w someDue
  refine Nat.lt_of_le_of_lt filled ?_
  simp only [Group.work]
  omega

theorem work_openGroup_le (e : Engine σ τ) (time bound : Nat) (tasks : List Task)
    (w : World σ τ) :
    (e.openGroup time bound tasks w).1.work e.retry.attempts ≤
      tasks.length * (2 * e.retry.attempts) := by
  unfold openGroup
  refine Nat.le_trans (work_fill_le e time _ _ _) ?_
  simp only [Group.checksWork, Nat.zero_add]
  exact Nat.mul_le_mul_right _
    (Nat.le_trans (Group.length_jobsOf_le _) (Nat.le_of_eq (length_assign e [] tasks w)))

end Engine

end PolicyLint
