/-!
# Bounded pools

A pool starts items in order, at most a fixed count of them at once, and an item starts as soon as a slot is
free. Items end in an order of their own. What they give is handed over in the order of the items.
-/

namespace PolicyLint

@[ext]
structure Span where
  start : Nat
  stop : Nat
  deriving DecidableEq, Repr

structure Timed (β : Type) where
  duration : Nat
  output : β
  deriving DecidableEq, Repr

/-- An item that has started, its number and what it gives when it ends. -/
@[ext]
structure Stint (β : Type) where
  number : Nat
  span : Span
  output : β
  deriving DecidableEq, Repr

/-- Which of the items that are over is taken first: a choice among their numbers. No two choices of a run
are among the same numbers, so every order can be had. -/
structure Turns where
  first : List Nat → Nat
  first_mem : ∀ {numbers : List Nat}, numbers ≠ [] → first numbers ∈ numbers

namespace Turns

def inOrder : Turns where
  first numbers := numbers.headD 0
  first_mem := by
    intro numbers some
    cases numbers with
    | nil => exact absurd rfl some
    | cons n rest => exact List.mem_cons_self

end Turns

/-- How many items may go on at once, what an item comes to, and who takes turns. -/
structure Pool (α β : Type) where
  concurrency : Nat
  work : α → Timed β
  turns : Turns := .inOrder

namespace Stint

variable {β : Type}

def isOver (time : Nat) (r : Stint β) : Bool := r.span.stop ≤ time

end Stint

namespace Pool

structure State (α β : Type) where
  clock : Nat := 0
  /-- The items that have not started, with their numbers. -/
  waiting : List (α × Nat)
  running : List (Stint β) := []
  /-- The items that have ended, the first one first. -/
  ended : List (Stint β) := []

namespace State

variable {α β : Type}

def nextEnd? (s : State α β) : Option Nat := (s.running.map (·.span.stop)).min?

def overAt (time : Nat) (s : State α β) : List Nat := (s.running.filter (·.isOver time)).map Stint.number

end State

variable {α β : Type}

def slots (p : Pool α β) : Nat := max p.concurrency 1

def begin (p : Pool α β) (time : Nat) (item : α × Nat) : Stint β :=
  let done := p.work item.1
  { number := item.2, span := ⟨time, time + done.duration⟩, output := done.output }

def fill (p : Pool α β) (s : State α β) : List (α × Nat) → State α β
  | [] => { s with waiting := [] }
  | item :: rest =>
    if s.running.length < p.slots then
      p.fill { s with running := s.running ++ [p.begin s.clock item] } rest
    else { s with waiting := item :: rest }

def takes (p : Pool α β) (time : Nat) (s : State α β) (r : Stint β) : Bool :=
  r.isOver time && r.number == p.turns.first (s.overAt time)

/-- Time passes until a time, at which one of the items that are over is taken. -/
def retire (p : Pool α β) (time : Nat) (s : State α β) : State α β :=
  { s with
    clock := time
    running := s.running.filter fun r => !p.takes time s r
    ended := s.ended ++ s.running.filter (p.takes time s) }

def jump (p : Pool α β) (time : Nat) (s : State α β) : State α β := p.fill (p.retire time s) s.waiting

def opening (p : Pool α β) (items : List α) : State α β := p.fill { waiting := items.zipIdx } items.zipIdx

/-! ### A pool comes to an end -/

theorem slots_pos (p : Pool α β) : 0 < p.slots := Nat.le_max_right _ _

theorem length_fill (p : Pool α β) (s : State α β) (items : List (α × Nat)) :
    (p.fill s items).waiting.length + (p.fill s items).running.length = items.length + s.running.length := by
  induction items generalizing s with
  | nil => rfl
  | cons item rest ih =>
    unfold fill
    split
    · simp only [ih, List.length_append, List.length_cons, List.length_nil]
      omega
    · rfl

/-- At the next end some item is over, and it is the turn of one. -/
theorem exists_takes (p : Pool α β) {s : State α β} {time : Nat} (next : s.nextEnd? = some time) :
    ∃ r ∈ s.running, p.takes time s r = true := by
  obtain ⟨last, runs, ends⟩ := List.mem_map.mp (List.min?_mem next)
  have has : last.number ∈ s.overAt time :=
    List.mem_map_of_mem (List.mem_filter.mpr ⟨runs, decide_eq_true (Nat.le_of_eq ends)⟩)
  obtain ⟨r, member, turn⟩ := List.mem_map.mp (p.turns.first_mem (List.ne_nil_of_mem has))
  obtain ⟨runs, ended⟩ := List.mem_filter.mp member
  exact ⟨r, runs, by simp [takes, ended, turn, State.overAt]⟩

theorem length_jump (p : Pool α β) {s : State α β} {time : Nat} (next : s.nextEnd? = some time) :
    (p.jump time s).waiting.length + (p.jump time s).running.length < s.waiting.length + s.running.length := by
  obtain ⟨r, runs, turn⟩ := p.exists_takes next
  have fewer : (s.running.filter fun r => !p.takes time s r).length < s.running.length :=
    List.length_filter_lt_length_iff_exists.mpr ⟨r, runs, by rw [turn]; decide⟩
  rw [jump, length_fill, retire]
  exact Nat.add_lt_add_left fewer _

def finish (p : Pool α β) (s : State α β) : State α β :=
  match _ : s.nextEnd? with
  | none => s
  | some time => p.finish (p.jump time s)
  termination_by s.waiting.length + s.running.length
  decreasing_by exact p.length_jump ‹_›

/-! ### What is handed over -/

/-- What became of the items, in their order. -/
def stints (p : Pool α β) (items : List α) : List (Stint β) :=
  (p.finish (p.opening items)).ended.mergeSort fun a b => a.number ≤ b.number

def outputs (p : Pool α β) (items : List α) : List β := (p.stints items).map Stint.output

/-- The pool whose items say how long they take. -/
def sleeping (concurrency : Nat) : Pool Nat Nat where
  concurrency
  work duration := { duration, output := duration }

def spans (concurrency : Nat) (durations : List Nat) : List Span :=
  ((sleeping concurrency).stints durations).map Stint.span

end Pool

end PolicyLint
