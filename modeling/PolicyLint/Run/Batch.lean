import PolicyLint.Fault
import PolicyLint.Run.Group

/-!
# Batches

A batch runs groups in order, at most a fixed count of them at once. Its clock jumps to the next time at
which something happens, so waiting takes no time of its own. A batch comes to an end because each jump
uses up work.
-/

namespace PolicyLint

/-- Groups that run together. -/
structure Batch where
  /-- The current time in milliseconds. -/
  clock : Nat := 0
  /-- How many groups may be open at once. -/
  width : Nat
  /-- How many checks of one group may go on at once. -/
  bound : Nat
  /-- The numbers and tasks of the groups that wait. -/
  waiting : List (Nat × List Task) := []
  opened : List (Nat × Group) := []
  /-- The verdicts of the groups that are done. -/
  closed : List (Nat × List Verdict) := []

namespace Batch

def nextDue? (b : Batch) : Option Nat :=
  (b.opened.flatMap fun g => g.2.running.map Check.due).min?

def verdicts (b : Batch) (groups : Nat) : List (List Verdict) :=
  (List.range groups).map fun i => (b.closed.lookup i).getD []

end Batch

namespace Engine

variable {σ τ : Type}

/-- Opens waiting groups while there is room. A group without checks is done at once. -/
def openWaiting (e : Engine σ τ) (b : Batch) : List (Nat × List Task) → World σ τ → Batch × World σ τ
  | [], w => ({ b with waiting := [] }, w)
  | (i, tasks) :: rest, w =>
    if b.opened.length < b.width then
      let (g, w) := e.openGroup b.clock b.bound tasks w
      if g.isDone then e.openWaiting { b with closed := (i, g.verdicts) :: b.closed } rest w
      else e.openWaiting { b with opened := b.opened ++ [(i, g)] } rest w
    else ({ b with waiting := (i, tasks) :: rest }, w)

/-- What happens in some groups at a time: the groups that go on, and the verdicts of the others. -/
def tickAll (e : Engine σ τ) (time : Nat) : List (Nat × Group) → World σ τ →
    List (Nat × Group) × List (Nat × List Verdict) × World σ τ
  | [], w => ([], [], w)
  | (i, g) :: rest, w =>
    let (g, w) := e.tick time g w
    let (opened, closed, w) := e.tickAll time rest w
    if g.isDone then (opened, (i, g.verdicts) :: closed, w) else ((i, g) :: opened, closed, w)

def jump (e : Engine σ τ) (time : Nat) (b : Batch) (w : World σ τ) : Batch × World σ τ :=
  let (opened, closed, w) := e.tickAll time b.opened w
  e.openWaiting { b with clock := time, opened, closed := closed ++ b.closed } b.waiting w

end Engine

/-! ### Work of a batch -/

namespace Batch

def openedWork (attempts : Nat) : List (Nat × Group) → Nat
  | [] => 0
  | g :: rest => g.2.work attempts + openedWork attempts rest

def waitingWork (attempts : Nat) : List (Nat × List Task) → Nat
  | [] => 0
  | g :: rest => g.2.length * (2 * attempts) + waitingWork attempts rest

/-- The steps that a batch can still take. -/
def work (attempts : Nat) (b : Batch) : Nat :=
  openedWork attempts b.opened + waitingWork attempts b.waiting

theorem openedWork_cons (attempts : Nat) (g : Nat × Group) (rest : List (Nat × Group)) :
    openedWork attempts (g :: rest) = g.2.work attempts + openedWork attempts rest := rfl

theorem openedWork_append (attempts : Nat) (a b : List (Nat × Group)) :
    openedWork attempts (a ++ b) = openedWork attempts a + openedWork attempts b := by
  induction a with
  | nil => simp [openedWork]
  | cons g rest ih => simp only [List.cons_append, openedWork, ih, Nat.add_assoc]

theorem waitingWork_cons (attempts : Nat) (g : Nat × List Task) (rest : List (Nat × List Task)) :
    waitingWork attempts (g :: rest) =
      g.2.length * (2 * attempts) + waitingWork attempts rest := rfl

theorem exists_due_of_nextDue? {b : Batch} {time : Nat} (next : b.nextDue? = some time) :
    ∃ g ∈ b.opened, ∃ c ∈ g.2.running, c.due ≤ time := by
  have member := List.min?_mem next
  obtain ⟨g, opened, due⟩ := List.mem_flatMap.mp member
  obtain ⟨c, running, same⟩ := List.mem_map.mp due
  exact ⟨g, opened, c, running, Nat.le_of_eq same⟩

end Batch

namespace Engine

variable {σ τ : Type}

theorem work_openWaiting_le (e : Engine σ τ) (b : Batch) (waiting : List (Nat × List Task))
    (w : World σ τ) :
    (e.openWaiting b waiting w).1.work e.retry.attempts ≤
      Batch.openedWork e.retry.attempts b.opened +
        Batch.waitingWork e.retry.attempts waiting := by
  induction waiting generalizing b w with
  | nil => simp [openWaiting, Batch.work]
  | cons next rest ih =>
    obtain ⟨i, tasks⟩ := next
    simp only [openWaiting, Batch.waitingWork_cons]
    split
    · have opening := work_openGroup_le e b.clock b.bound tasks w
      split
      · refine Nat.le_trans (ih _ _) ?_
        simp only
        omega
      · refine Nat.le_trans (ih _ _) ?_
        simp only [Batch.openedWork_append, Batch.openedWork_cons]
        simp only [Batch.openedWork]
        omega
    · simp [Batch.work, Batch.waitingWork_cons]

theorem openedWork_tickAll_le (e : Engine σ τ) (time : Nat) (opened : List (Nat × Group))
    (w : World σ τ) :
    Batch.openedWork e.retry.attempts (e.tickAll time opened w).1 ≤
      Batch.openedWork e.retry.attempts opened := by
  induction opened generalizing w with
  | nil => simp [tickAll]
  | cons next rest ih =>
    obtain ⟨i, g⟩ := next
    have ticked := work_tick_le e time g w
    have others := ih (e.tick time g w).2
    simp only [tickAll]
    split
    · simp only [Batch.openedWork_cons]
      omega
    · simp only [Batch.openedWork_cons]
      omega

theorem openedWork_tickAll_lt (e : Engine σ τ) (time : Nat) (opened : List (Nat × Group))
    (w : World σ τ) (someDue : ∃ g ∈ opened, ∃ c ∈ g.2.running, c.due ≤ time) :
    Batch.openedWork e.retry.attempts (e.tickAll time opened w).1 <
      Batch.openedWork e.retry.attempts opened := by
  induction opened generalizing w with
  | nil => simp at someDue
  | cons next rest ih =>
    obtain ⟨i, g⟩ := next
    have less : Batch.openedWork e.retry.attempts (e.tickAll time rest (e.tick time g w).2).1 +
        (e.tick time g w).1.work e.retry.attempts <
        Batch.openedWork e.retry.attempts rest + g.work e.retry.attempts := by
      obtain ⟨g', member, due⟩ := someDue
      rcases List.mem_cons.mp member with same | later
      · subst same
        have ticked := work_tick_lt e time g w due
        have others := openedWork_tickAll_le e time rest (e.tick time g w).2
        omega
      · have ticked := work_tick_le e time g w
        have others := ih (e.tick time g w).2 ⟨g', later, due⟩
        omega
    simp only [tickAll]
    split
    · simp only [Batch.openedWork_cons]
      omega
    · simp only [Batch.openedWork_cons]
      omega

theorem work_jump_lt (e : Engine σ τ) {time : Nat} {b : Batch} (w : World σ τ)
    (next : b.nextDue? = some time) :
    (e.jump time b w).1.work e.retry.attempts < b.work e.retry.attempts := by
  have ticked := openedWork_tickAll_lt e time b.opened w (Batch.exists_due_of_nextDue? next)
  refine Nat.lt_of_le_of_lt (work_openWaiting_le e _ b.waiting (e.tickAll time b.opened w).2.2) ?_
  simp only [Batch.work]
  omega

def finish (e : Engine σ τ) (b : Batch) (w : World σ τ) : Batch × World σ τ :=
  match _ : b.nextDue? with
  | none => (b, w)
  | some time =>
    let following := e.jump time b w
    e.finish following.1 following.2
  termination_by b.work e.retry.attempts
  decreasing_by exact work_jump_lt e w ‹_›

/-- Runs groups of tasks: the verdicts of each group, and the milliseconds that passed. -/
def runGroups (e : Engine σ τ) (width bound : Nat) (groups : List (List Task)) (w : World σ τ) :
    (List (List Verdict) × Nat) × World σ τ :=
  let numbered := (List.range groups.length).zip groups
  let (b, w) := e.openWaiting { width, bound } numbered w
  let (b, w) := e.finish b w
  ((b.verdicts groups.length, b.clock), w)

/-- Runs tasks, at most `concurrency` checks at once: the verdict of each task, and the milliseconds that
passed. -/
def run (e : Engine σ τ) (tasks : List Task) (concurrency : Nat) (w : World σ τ) :
    Except SetupFault ((List Verdict × Nat) × World σ τ) :=
  if concurrency = 0 then .error .noConcurrency
  else
    let ((verdicts, elapsed), w) := e.runGroups 1 concurrency [tasks] w
    .ok ((verdicts.flatten, elapsed), w)

end Engine

end PolicyLint
