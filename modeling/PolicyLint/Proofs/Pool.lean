import Mathlib.Data.List.Forall2
import Mathlib.Data.List.Nodup
import Mathlib.Order.Bounds.Basic
import PolicyLint.Pool
import PolicyLint.Proofs.Sorting

/-!
# Schedules of bounded pools

Items start in order, and no slot is idle while an item waits. From both together it follows when an item
starts: at time zero if there is a slot for it, and else at the first time at which so many of the items
before it have ended that a slot is left. `serves_in_order` says that this settles what becomes of all items,
whoever takes turns.
-/

namespace PolicyLint

namespace Stint

variable {β : Type}

def goesOn (time : Nat) (r : Stint β) : Bool := r.span.start ≤ time && time < r.span.stop

theorem goesOn_iff {time : Nat} {r : Stint β} :
    r.goesOn time = true ↔ r.span.start ≤ time ∧ time < r.span.stop := by simp [goesOn]

theorem isOver_iff {time : Nat} {r : Stint β} : r.isOver time = true ↔ r.span.stop ≤ time := by simp [isOver]

end Stint

namespace Pool

variable {α β : Type}

/-! ### Items at a time -/

/-- How many of some items go on at a time. -/
def busy (time : Nat) (stints : List (Stint β)) : Nat := stints.countP (Stint.goesOn time)

/-- How many of some items have ended by a time. -/
def endedBy (time : Nat) (stints : List (Stint β)) : Nat := stints.countP (Stint.isOver time)

section Counts

variable {t : Nat} {stints : List (Stint β)}

theorem busy_append (t : Nat) (a b : List (Stint β)) : busy t (a ++ b) = busy t a + busy t b := List.countP_append

theorem busy_eq_zero (none : ∀ r ∈ stints, r.span.start ≤ t → r.span.stop ≤ t) : busy t stints = 0 := by
  apply List.countP_eq_zero.mpr
  intro r member goes
  have spans := Stint.goesOn_iff.mp goes
  have ended := none r member spans.1
  omega

theorem busy_eq_length (all : ∀ r ∈ stints, r.span.start ≤ t ∧ t < r.span.stop) :
    busy t stints = stints.length := by
  apply List.countP_eq_length.mpr
  intro r member
  exact Stint.goesOn_iff.mpr (all r member)

theorem endedBy_eq_length (all : ∀ r ∈ stints, r.span.stop ≤ t) : endedBy t stints = stints.length := by
  apply List.countP_eq_length.mpr
  intro r member
  exact Stint.isOver_iff.mpr (all r member)

/-- No item that has ended goes on. -/
theorem endedBy_add_busy_le (t : Nat) (stints : List (Stint β)) : endedBy t stints + busy t stints ≤ stints.length := by
  induction stints with
  | nil => simp [endedBy, busy]
  | cons r rest ih =>
    have apart : ¬(r.isOver t = true ∧ r.goesOn t = true) := by
      rw [Stint.isOver_iff, Stint.goesOn_iff]
      omega
    simp only [endedBy, busy, List.countP_cons, List.length_cons] at ih ⊢
    split
    · split
      · exact absurd ⟨‹_›, ‹_›⟩ apart
      · omega
    · split
      · omega
      · omega

end Counts

/-! ### When items start -/

structure Does (p : Pool α β) (item : α × Nat) (r : Stint β) : Prop where
  number : r.number = item.2
  output : r.output = (p.work item.1).output
  lasts : r.span.stop = r.span.start + (p.work item.1).duration

/-- Each item starts at time zero if there is a slot for it, and else at the earliest time at which so many of
the items before it have ended that a slot is left. -/
structure Scheduled (p : Pool α β) (items : List α) (stints : List (Stint β)) : Prop where
  does : List.Forall₂ p.Does items.zipIdx stints
  early : ∀ {i r}, stints[i]? = some r → i < p.slots → r.span.start = 0
  late : ∀ {i r}, stints[i]? = some r → p.slots ≤ i →
    IsLeast {t | i - p.slots + 1 ≤ endedBy t (stints.take i)} r.span.start

/-- Items start in order, at most a fixed count of them go on at once, and no fewer while one waits. -/
structure Conserves (slots : Nat) (stints : List (Stint β)) : Prop where
  ordered : stints.Pairwise fun a b => a.span.start ≤ b.span.start
  bounded : ∀ t, busy t stints ≤ slots
  full : ∀ t, (∃ r ∈ stints, t < r.span.start) → busy t stints = slots

section Starts

variable {slots : Nat} {stints : List (Stint β)} {i t : Nat} {r : Stint β}

/-- Before an item starts, only items before it go on. -/
theorem busy_take (ordered : stints.Pairwise fun a b => a.span.start ≤ b.span.start) (found : stints[i]? = some r)
    (before : t < r.span.start) : busy t (stints.take i) = busy t stints := by
  obtain ⟨short, rfl⟩ := List.getElem?_eq_some_iff.mp found
  have later : ∀ r' ∈ stints.drop i, stints[i].span.start ≤ r'.span.start := by
    have rest := ordered.drop (i := i)
    rw [List.drop_eq_getElem_cons short] at rest ⊢
    intro r' member
    rcases List.mem_cons.mp member with rfl | behind
    · exact Nat.le_refl _
    · exact (List.pairwise_cons.mp rest).1 r' behind
  have idle : busy t (stints.drop i) = 0 := by
    apply busy_eq_zero
    intro r' member starts
    have after := later r' member
    omega
  calc busy t (stints.take i) = busy t (stints.take i) + busy t (stints.drop i) := by rw [idle, Nat.add_zero]
    _ = busy t stints := by rw [← busy_append, List.take_append_drop]

theorem isLeast_endedBy {count first : Nat} (reached : count ≤ endedBy first stints)
    (earlier : ∀ t < first, endedBy t stints < count) : IsLeast {t | count ≤ endedBy t stints} first := by
  refine ⟨reached, fun t enough => Nat.le_of_not_lt fun before => ?_⟩
  exact absurd enough (Nat.not_le_of_lt (earlier t before))

/-- While an item waits, the items before it that have not ended take all slots. -/
theorem Conserves.endedBy_take_le (conserves : Conserves slots stints) (found : stints[i]? = some r)
    (waits : t < r.span.start) : endedBy t (stints.take i) + slots ≤ i := by
  have full := conserves.full t ⟨r, List.mem_of_getElem? found, waits⟩
  have before := busy_take conserves.ordered found waits
  have few := endedBy_add_busy_le t (stints.take i)
  rw [List.length_take] at few
  omega

theorem Conserves.start_early (conserves : Conserves slots stints) (found : stints[i]? = some r) (room : i < slots) :
    r.span.start = 0 := by
  apply Nat.eq_zero_of_not_pos
  intro waits
  have taken := conserves.endedBy_take_le found waits
  omega

theorem Conserves.start_late (conserves : Conserves slots stints) (found : stints[i]? = some r) (late : slots ≤ i)
    (earned : i + 1 ≤ endedBy r.span.start (stints.take i) + slots) :
    IsLeast {t | i - slots + 1 ≤ endedBy t (stints.take i)} r.span.start := by
  apply isLeast_endedBy
  · omega
  · intro t waits
    have taken := conserves.endedBy_take_le found waits
    omega

end Starts

section Schedules

variable {p : Pool α β} {items : List α} {taken : List (α × Nat)} {stints stints' : List (Stint β)}

theorem does_begin (p : Pool α β) (time : Nat) (item : α × Nat) : p.Does item (p.begin time item) := ⟨rfl, rfl, rfl⟩

theorem busy_begin (p : Pool α β) (item : α × Nat) {t time : Nat} (before : t < time) :
    busy t [p.begin time item] = 0 := by
  apply busy_eq_zero
  intro r member starts
  rw [List.mem_singleton.mp member] at starts
  exact absurd before (Nat.not_lt_of_le starts)

theorem map_eq_of_does {γ : Type} {f : α × Nat → γ} {g : Stint β → γ}
    (same : ∀ {item r}, p.Does item r → f item = g r) (does : List.Forall₂ p.Does taken stints) : taken.map f = stints.map g := by
  induction does with
  | nil => rfl
  | cons first _ ih => rw [List.map_cons, List.map_cons, same first, ih]

theorem Does.unique {item : α × Nat} {r r' : Stint β} (does : p.Does item r) (does' : p.Does item r')
    (start : r.span.start = r'.span.start) : r = r' := by
  have stop : r.span.stop = r'.span.stop := by rw [does.lasts, does'.lasts, start]
  exact Stint.ext (does.number.trans does'.number.symm) (Span.ext start stop) (does.output.trans does'.output.symm)

/-- When the items before it start settles when an item starts. -/
theorem Scheduled.unique (one : p.Scheduled items stints) (other : p.Scheduled items stints') : stints = stints' := by
  have long := one.does.length_eq.symm.trans other.does.length_eq
  have upTo : ∀ i, i ≤ stints.length → stints.take i = stints'.take i := by
    intro i
    induction i with
    | zero => intro _; rfl
    | succ i ih =>
      intro short
      have short' : i < stints'.length := long ▸ short
      have before := ih (Nat.le_of_lt short)
      have found : stints[i]? = some stints[i] := List.getElem?_eq_getElem short
      have found' : stints'[i]? = some stints'[i] := List.getElem?_eq_getElem short'
      have start : stints[i].span.start = stints'[i].span.start := by
        rcases Nat.lt_or_ge i p.slots with room | late
        · rw [one.early found room, other.early found' room]
        · have least := one.late found late
          rw [before] at least
          exact least.unique (other.late found' late)
      have numbered : i < items.zipIdx.length := one.does.length_eq ▸ short
      have same := Does.unique ((List.forall₂_iff_get.mp one.does).2 i numbered short)
        ((List.forall₂_iff_get.mp other.does).2 i numbered short') start
      simp only [List.get_eq_getElem] at same
      rw [List.take_add_one, List.take_add_one, before, found, found', same]
  have all := upTo stints.length (Nat.le_refl _)
  rwa [List.take_length, long, List.take_length] at all

end Schedules

/-! ### What a pool keeps -/

/-- A pool has started some items, which are given in the order in which they started. -/
structure Paced (p : Pool α β) (items : List α) (s : State α β) (stints : List (Stint β)) : Prop where
  among : stints.Perm (s.ended ++ s.running)
  does : ∃ taken, items.zipIdx = taken ++ s.waiting ∧ List.Forall₂ p.Does taken stints
  past : ∀ r ∈ s.ended, r.span.start ≤ r.span.stop ∧ r.span.stop ≤ s.clock
  present : ∀ r ∈ s.running, r.span.start ≤ s.clock ∧ s.clock ≤ r.span.stop
  few : s.running.length ≤ p.slots
  ordered : stints.Pairwise fun a b => a.span.start ≤ b.span.start
  /-- An item that starts finds a slot that is free, also when it takes no time. -/
  earned : ∀ {i r}, stints[i]? = some r → i + 1 ≤ endedBy r.span.start (stints.take i) + p.slots
  bounded : ∀ t, busy t stints ≤ p.slots
  full : ∀ t < s.clock, (s.waiting ≠ [] ∨ ∃ r ∈ stints, t < r.span.start) → busy t stints = p.slots

section Steps

variable {p : Pool α β} {items : List α} {s : State α β} {stints : List (Stint β)} {t time : Nat}

theorem Paced.started (paced : p.Paced items s stints) : ∀ r ∈ stints, r.span.start ≤ s.clock := by
  intro r member
  rcases List.mem_append.mp (paced.among.mem_iff.mp member) with ended | runs
  · have past := paced.past r ended
    omega
  · exact (paced.present r runs).1

theorem Paced.busy_eq (paced : p.Paced items s stints) (late : s.clock ≤ t) : busy t stints = busy t s.running := by
  have idle : busy t s.ended = 0 := by
    apply busy_eq_zero
    intro r member _
    have past := paced.past r member
    omega
  calc busy t stints = busy t (s.ended ++ s.running) := paced.among.countP_eq _
    _ = busy t s.running := by rw [busy_append, idle, Nat.zero_add]

theorem Paced.length_le (paced : p.Paced items s stints) : stints.length ≤ endedBy s.clock stints + s.running.length := by
  have ended : endedBy s.clock s.ended = s.ended.length := endedBy_eq_length fun r member => (paced.past r member).2
  have counted : endedBy s.clock stints = endedBy s.clock s.ended + endedBy s.clock s.running := by
    rw [endedBy, paced.among.countP_eq, List.countP_append]
    rfl
  have long := paced.among.length_eq
  rw [List.length_append] at long
  omega

theorem paced_nothing (p : Pool α β) (items : List α) : p.Paced items { waiting := items.zipIdx } [] where
  among := .refl _
  does := ⟨[], rfl, .nil⟩
  past := by simp
  present := by simp
  few := Nat.zero_le _
  ordered := .nil
  earned := by simp
  bounded _ := Nat.zero_le _
  full t before := absurd before (Nat.not_lt_zero t)

/-- An item starts. -/
theorem Paced.start {item : α × Nat} {rest : List (α × Nat)}
    (paced : p.Paced items { s with waiting := item :: rest } stints) (room : s.running.length < p.slots) :
    p.Paced items { s with waiting := rest, running := s.running ++ [p.begin s.clock item] }
      (stints ++ [p.begin s.clock item]) where
  among := by
    rw [← List.append_assoc]
    exact paced.among.append_right _
  does := by
    obtain ⟨taken, split, does⟩ := paced.does
    refine ⟨taken ++ [item], by simp [split], ?_⟩
    exact List.rel_append does (.cons (does_begin p s.clock item) .nil)
  past := paced.past
  present := by
    intro r member
    rcases List.mem_append.mp member with old | new
    · exact paced.present r old
    · rw [List.mem_singleton.mp new]
      exact ⟨Nat.le_refl _, Nat.le_add_right _ _⟩
  few := by
    simp only [List.length_append, List.length_singleton]
    omega
  ordered := by
    refine List.pairwise_append.mpr ⟨paced.ordered, List.pairwise_singleton _ _, ?_⟩
    intro r member new same
    rw [List.mem_singleton.mp same]
    exact paced.started r member
  earned := by
    intro i r found
    rcases Nat.lt_or_ge i stints.length with old | new
    · rw [List.getElem?_append_left old] at found
      rw [List.take_append_of_le_length (Nat.le_of_lt old)]
      exact paced.earned found
    · obtain ⟨short, _⟩ := List.getElem?_eq_some_iff.mp found
      rw [List.length_append, List.length_singleton] at short
      obtain rfl : i = stints.length := by omega
      rw [List.getElem?_concat_length] at found
      obtain rfl := Option.some.inj found
      have ended : stints.length ≤ endedBy s.clock stints + s.running.length := paced.length_le
      rw [List.take_left]
      show stints.length + 1 ≤ endedBy s.clock stints + p.slots
      omega
  bounded := by
    intro t
    rw [busy_append]
    rcases Nat.lt_or_ge t s.clock with before | late
    · rw [busy_begin p item before, Nat.add_zero]
      exact paced.bounded t
    · have old : busy t stints ≤ s.running.length := paced.busy_eq late ▸ List.countP_le_length
      have new : busy t [p.begin s.clock item] ≤ 1 := List.countP_le_length
      omega
  full := by
    intro t before _
    rw [busy_append, busy_begin p item before, Nat.add_zero]
    exact paced.full t before (Or.inl (List.cons_ne_nil item rest))

theorem Paced.fill {waiting : List (α × Nat)} (paced : p.Paced items { s with waiting } stints) :
    ∃ stints', p.Paced items (p.fill s waiting) stints' := by
  induction waiting generalizing s stints with
  | nil => exact ⟨stints, paced⟩
  | cons item rest ih =>
    unfold Pool.fill
    split
    · exact ih (paced.start ‹_›)
    · exact ⟨stints, paced⟩

theorem fill_full (p : Pool α β) {s : State α β} (few : s.running.length ≤ p.slots) {waiting : List (α × Nat)}
    (left : (p.fill s waiting).waiting ≠ []) : (p.fill s waiting).running.length = p.slots := by
  induction waiting generalizing s with
  | nil => exact absurd rfl left
  | cons item rest ih =>
    unfold fill at left ⊢
    split
    next room =>
      rw [if_pos room] at left
      refine ih ?_ left
      simp only [List.length_append, List.length_singleton]
      omega
    next room =>
      show s.running.length = p.slots
      omega

theorem le_stop_of_nextEnd? (next : s.nextEnd? = some time) {r : Stint β} (runs : r ∈ s.running) :
    time ≤ r.span.stop :=
  (List.min?_eq_some_iff.mp next).2 _ (List.mem_map_of_mem runs)

theorem Paced.clock_le (paced : p.Paced items s stints) (next : s.nextEnd? = some time) : s.clock ≤ time := by
  obtain ⟨r, runs, rfl⟩ := List.mem_map.mp (List.min?_mem next)
  exact (paced.present r runs).2

/-- All that go on do so until the next end. -/
theorem Paced.busy_until (paced : p.Paced items s stints) (next : s.nextEnd? = some time) (late : s.clock ≤ t)
    (before : t < time) : busy t stints = s.running.length := by
  rw [paced.busy_eq late]
  apply busy_eq_length
  intro r runs
  have present := paced.present r runs
  have stops := le_stop_of_nextEnd? next runs
  omega

/-- An item ends. -/
theorem Paced.stop (paced : p.Paced items s stints) (taken : s.waiting ≠ [] → s.running.length = p.slots)
    (next : s.nextEnd? = some time) : p.Paced items (p.retire time s) stints where
  among := by
    rw [retire, List.append_assoc]
    exact paced.among.trans ((List.filter_append_perm _ _).symm.append_left _)
  does := paced.does
  past := by
    intro r member
    rcases List.mem_append.mp member with old | new
    · have past := paced.past r old
      exact ⟨past.1, Nat.le_trans past.2 (paced.clock_le next)⟩
    · obtain ⟨runs, turn⟩ := List.mem_filter.mp new
      have present := paced.present r runs
      have ended := Stint.isOver_iff.mp (Bool.and_eq_true_iff.mp turn).1
      exact ⟨Nat.le_trans present.1 present.2, ended⟩
  present := by
    intro r member
    have runs := (List.mem_filter.mp member).1
    exact ⟨Nat.le_trans (paced.present r runs).1 (paced.clock_le next), le_stop_of_nextEnd? next runs⟩
  few := Nat.le_trans (List.length_filter_le _ _) paced.few
  ordered := paced.ordered
  earned := paced.earned
  bounded := paced.bounded
  full := by
    intro t before waits
    rcases Nat.lt_or_ge t s.clock with past | late
    · exact paced.full t past waits
    · -- what has not started by now is still among the waiting ones
      have some : s.waiting ≠ [] := by
        rcases waits with some | ⟨r, member, after⟩
        · exact some
        · have started := paced.started r member
          omega
      rw [paced.busy_until next late before, taken some]

end Steps

/-! ### Whole runs -/

/-- The states that a pool goes through. -/
inductive Reached (p : Pool α β) (items : List α) : State α β → Prop where
  | opening : Reached p items (p.opening items)
  | jump {s : State α β} {time : Nat} (reached : Reached p items s) (next : s.nextEnd? = some time) :
      Reached p items (p.jump time s)

/-- The first items have started, and the others wait only while all slots are taken. -/
structure Steady (p : Pool α β) (items : List α) (s : State α β) : Prop where
  started : ((s.ended ++ s.running).map Stint.number).Perm (List.range (items.length - s.waiting.length))
  waits : s.waiting = items.zipIdx.drop (items.length - s.waiting.length)
  few : s.running.length ≤ p.slots
  full : s.waiting ≠ [] → s.running.length = p.slots

section Whole

variable {p : Pool α β} {items : List α} {s : State α β} {stints : List (Stint β)}

theorem Reached.paced (reached : p.Reached items s) :
    (∃ stints, p.Paced items s stints) ∧ (s.waiting ≠ [] → s.running.length = p.slots) := by
  -- a slot is free for a moment when an item ends, so that all are taken holds again only after the filling
  induction reached with
  | opening => exact ⟨(paced_nothing p items).fill, p.fill_full (Nat.zero_le _)⟩
  | jump _ next ih =>
    obtain ⟨⟨_, paced⟩, full⟩ := ih
    have stopped := paced.stop full next
    exact ⟨stopped.fill, p.fill_full stopped.few⟩

theorem Reached.finish (reached : p.Reached items s) :
    p.Reached items (p.finish s) ∧ (p.finish s).nextEnd? = none := by
  fun_induction p.finish s with
  | case1 s none => exact ⟨reached, none⟩
  | case2 s time next ih => exact ih (reached.jump next)

theorem Paced.numbers (paced : p.Paced items s stints) :
    stints.map Stint.number = List.range (items.length - s.waiting.length) ∧
      s.waiting = items.zipIdx.drop (items.length - s.waiting.length) := by
  obtain ⟨taken, split, does⟩ := paced.does
  have long : items.length - s.waiting.length = taken.length := by
    have both := congrArg List.length split
    rw [List.length_zipIdx, List.length_append] at both
    omega
  have short : taken.length ≤ items.length := by
    rw [← long]
    exact Nat.sub_le _ _
  have taken_eq : taken.map Prod.snd = List.range taken.length := by
    have first : (items.zipIdx.map Prod.snd).take taken.length = taken.map Prod.snd := by
      rw [split, ← List.map_take, List.take_left]
    rw [← first, List.zipIdx_map_snd, ← List.range_eq_range', List.take_range, Nat.min_eq_left short]
  rw [long]
  constructor
  · rw [← taken_eq]
    exact (map_eq_of_does (fun does => does.number.symm) does).symm
  · rw [split, List.drop_left]

theorem Reached.steady (reached : p.Reached items s) : p.Steady items s := by
  obtain ⟨⟨stints, paced⟩, full⟩ := reached.paced
  have numbers := paced.numbers
  exact ⟨numbers.1 ▸ (paced.among.map _).symm, numbers.2, paced.few, full⟩

theorem keyOrder_numbers : KeyOrder fun a b : Nat => decide (a ≤ b) where
  trans a b c first second := by
    rw [decide_eq_true_eq] at first second ⊢
    exact Nat.le_trans first second
  total a b := by simpa using Nat.le_total a b
  antisymm a b first second := Nat.le_antisymm (of_decide_eq_true first) (of_decide_eq_true second)

/-- When no item goes on, sorting gives the items back in the order in which they started. -/
theorem Paced.sorted (paced : p.Paced items s stints) (idle : s.running = []) :
    s.ended.mergeSort (fun a b => a.number ≤ b.number) = stints := by
  have perm : stints.Perm s.ended := by
    have among := paced.among
    rwa [idle, List.append_nil] at among
  have numbers := paced.numbers.1
  have ascending : stints.Pairwise fun a b => a.number < b.number := by
    rw [← List.pairwise_map, numbers]
    exact List.pairwise_lt_range
  have distinct : (stints.map Stint.number).Nodup := numbers ▸ List.nodup_range
  refine List.Perm.eq_of_pairwise ?_ (sortedBy_mergeSort keyOrder_numbers Stint.number s.ended)
    (ascending.imp fun less => decide_eq_true (Nat.le_of_lt less)) ((List.mergeSort_perm _ _).trans perm.symm)
  intro a b ended member first second
  have same := keyOrder_numbers.antisymm _ _ first second
  exact List.inj_on_of_nodup_map distinct (perm.mem_iff.mpr ((List.mergeSort_perm _ _).mem_iff.mp ended)) member same

/-- What became of the items is what a pool keeps until none is left. -/
theorem paced_stints (p : Pool α β) (items : List α) : ∃ s, p.Paced items s (p.stints items) ∧ s.waiting = [] := by
  have opened : p.Reached items (p.opening items) := .opening
  obtain ⟨reached, idle⟩ := opened.finish
  obtain ⟨⟨stints, paced⟩, full⟩ := reached.paced
  have none : (p.finish (p.opening items)).running = [] := List.map_eq_nil_iff.mp (List.min?_eq_none_iff.mp idle)
  refine ⟨p.finish (p.opening items), ?_, ?_⟩
  · rw [Pool.stints, paced.sorted none]
    exact paced
  · apply Classical.byContradiction
    intro some
    have taken := full some
    have slots := p.slots_pos
    rw [none, List.length_nil] at taken
    omega

theorem Paced.conserves (paced : p.Paced items s stints) : Conserves p.slots stints where
  ordered := paced.ordered
  bounded := paced.bounded
  full t waits := by
    obtain ⟨r, member, before⟩ := waits
    exact paced.full t (Nat.lt_of_lt_of_le before (paced.started r member)) (Or.inr ⟨r, member, before⟩)

theorem Paced.scheduled (paced : p.Paced items s stints) (done : s.waiting = []) : p.Scheduled items stints where
  does := by
    obtain ⟨taken, split, does⟩ := paced.does
    rwa [split, done, List.append_nil]
  early found room := paced.conserves.start_early found room
  late found late := paced.conserves.start_late found late (paced.earned found)

/-- It does not matter who takes turns. -/
theorem stints_turns (p : Pool α β) (turns : Turns) (items : List α) :
    ({ p with turns }).stints items = p.stints items := by
  obtain ⟨_, paced, done⟩ := paced_stints p items
  obtain ⟨_, paced', done'⟩ := paced_stints { p with turns } items
  have scheduled' := paced'.scheduled done'
  have same : p.Scheduled items (({ p with turns }).stints items) :=
    ⟨scheduled'.does.imp fun _ _ does => ⟨does.number, does.output, does.lasts⟩, scheduled'.early, scheduled'.late⟩
  exact same.unique (paced.scheduled done)

/-- Items that end together, and items that take no time. -/
theorem scheduled_ties : (sleeping 2).Scheduled [5, 0, 5, 3, 0]
    [⟨0, ⟨0, 5⟩, 5⟩, ⟨1, ⟨0, 0⟩, 0⟩, ⟨2, ⟨0, 5⟩, 5⟩, ⟨3, ⟨5, 8⟩, 3⟩, ⟨4, ⟨5, 5⟩, 0⟩] where
  does := .cons ⟨rfl, rfl, rfl⟩ (.cons ⟨rfl, rfl, rfl⟩ (.cons ⟨rfl, rfl, rfl⟩
    (.cons ⟨rfl, rfl, rfl⟩ (.cons ⟨rfl, rfl, rfl⟩ .nil))))
  early := by
    intro i r found room
    have first : i = 0 ∨ i = 1 := by
      simp only [slots, sleeping] at room
      omega
    rcases first with rfl | rfl
    · rw [← Option.some.inj found]
    · rw [← Option.some.inj found]
  late := by
    intro i r found late
    have short := (List.getElem?_eq_some_iff.mp found).1
    have others : i = 2 ∨ i = 3 ∨ i = 4 := by
      simp only [slots, sleeping] at late
      simp only [List.length_cons, List.length_nil] at short
      omega
    rcases others with rfl | rfl | rfl
    · rw [← Option.some.inj found]
      exact isLeast_endedBy (by decide) (by decide)
    · rw [← Option.some.inj found]
      exact isLeast_endedBy (by decide) (by decide)
    · rw [← Option.some.inj found]
      exact isLeast_endedBy (by decide) (by decide)

/-- A pool hands over what each item gives in the order of the items. When they start is what `Scheduled` says
and nothing else: in order, as soon as a slot is left. At most as many items as there are slots go on at any
time and in any state, and no fewer while an item waits. -/
theorem serves_in_order (p : Pool α β) (items : List α) :
    p.outputs items = items.map (fun a => (p.work a).output) ∧
      (∀ stints, p.Scheduled items stints ↔ stints = p.stints items) ∧
      Conserves p.slots (p.stints items) ∧ ∀ s, p.Reached items s → p.Steady items s := by
  obtain ⟨s, paced, done⟩ := paced_stints p items
  have scheduled := paced.scheduled done
  refine ⟨?_, ?_, paced.conserves, fun _ reached => reached.steady⟩
  · calc p.outputs items = items.zipIdx.map fun item => (p.work item.1).output :=
        (map_eq_of_does (fun does => does.output.symm) scheduled.does).symm
      _ = (items.zipIdx.map Prod.fst).map fun a => (p.work a).output := by
        rw [List.map_map]
        rfl
      _ = items.map fun a => (p.work a).output := by rw [List.zipIdx_map_fst]
  · intro stints
    constructor
    · intro other
      exact other.unique scheduled
    · rintro rfl
      exact scheduled

theorem serves_in_order_of_ties :
    let p := sleeping 2
    let items := [5, 0, 5, 3, 0]
    p.outputs items = items ∧ spans 2 items = [⟨0, 5⟩, ⟨0, 0⟩, ⟨0, 5⟩, ⟨5, 8⟩, ⟨5, 5⟩] ∧ busy 4 (p.stints items) = 2 := by
  intro p items
  obtain ⟨outputs, schedule, conserves, _⟩ := serves_in_order p items
  have stints := (schedule _).mp scheduled_ties
  refine ⟨outputs, ?_, ?_⟩
  · rw [spans, ← stints]
    rfl
  · apply conserves.full
    rw [← stints]
    exact ⟨⟨3, ⟨5, 8⟩, 3⟩, by simp, by decide⟩

end Whole

end Pool

end PolicyLint
