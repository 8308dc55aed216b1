import PolicyLint.Run.Group

/-!
# Lookups

Before the checks of a group start, the store is asked once for each task. `assign_slots` says what
becomes of the answers: a task with a verdict of its key is served, of the others with one key the first
one is checked and the rest share what comes of it.
-/

namespace PolicyLint

/-- The job that a task becomes when its key is missed. -/
abbrev Task.job (t : Task) : Job := { task := t, key := t.key }

namespace Store

variable {τ : Type}

def answers (s : Store τ) : List Key → τ → List (Except StoreFault (Option Entry))
  | [], _ => []
  | k :: rest, t => (s.get t k).1 :: s.answers rest (s.get t k).2

def verdictFor (k : Key) : Except StoreFault (Option Entry) → Option Verdict
  | .ok (some entry) => if entry.key = k then some entry.verdict else none
  | _ => none

def forgetful : Store Unit where
  get t _ := (.ok none, t)
  set t _ _ := (.ok (), t)
  flush t := (.ok (), t)

theorem length_answers (s : Store τ) (keys : List Key) (t : τ) : (s.answers keys t).length = keys.length := by
  induction keys generalizing t with
  | nil => rfl
  | cons k rest ih => simp only [answers, List.length_cons, ih]

theorem verdictFor_eq_some {k : Key} {answer : Except StoreFault (Option Entry)} {v : Verdict}
    (found : verdictFor k answer = some v) :
    ∃ entry, answer = .ok (some entry) ∧ entry.key = k ∧ entry.verdict = v := by
  unfold verdictFor at found
  split at found
  · rename_i entry
    split at found
    · rename_i same
      exact ⟨entry, rfl, same, Option.some.inj found⟩
    · exact absurd found (by simp)
  · exact absurd found (by simp)

end Store

namespace Engine

variable {σ τ : Type}

def found (e : Engine σ τ) (tasks : List Task) (t : τ) : List (Option Verdict) :=
  List.zipWith Store.verdictFor (tasks.map Task.key) (e.store.answers (tasks.map Task.key) t)

/-- The tasks of some that the store does not answer have these keys. -/
def missedKeys : List Task → List (Option Verdict) → List Key
  | task :: tasks, none :: found => task.key :: missedKeys tasks found
  | _ :: tasks, some _ :: found => missedKeys tasks found
  | _, _ => []

/-- The slots of tasks for which the store has something, some keys having been missed before. -/
def slotsOf (missed : List Key) : List Task → List (Option Verdict) → List Slot
  | task :: tasks, some v :: found =>
    { task, key := task.key, origin := .served v } :: slotsOf missed tasks found
  | task :: tasks, none :: found =>
    { task, key := task.key, origin := if missed.contains task.key then .shared else .checked } ::
      slotsOf (task.key :: missed) tasks found
  | _, _ => []

theorem length_found (e : Engine σ τ) (tasks : List Task) (t : τ) :
    (e.found tasks t).length = tasks.length := by
  simp [found, Store.length_answers]

theorem found_cons (e : Engine σ τ) (task : Task) (tasks : List Task) (t : τ) :
    e.found (task :: tasks) t =
      Store.verdictFor task.key (e.store.get t task.key).1 :: e.found tasks (e.store.get t task.key).2 := rfl

theorem found_getElem? (e : Engine σ τ) {tasks : List Task} {t : τ} {i : Nat} {task : Task}
    (here : tasks[i]? = some task) :
    ∃ answer, (e.store.answers (tasks.map Task.key) t)[i]? = some answer ∧
      (e.found tasks t)[i]? = some (Store.verdictFor task.key answer) := by
  have inside : i < (e.store.answers (tasks.map Task.key) t).length := by
    rw [Store.length_answers, List.length_map]
    exact (List.getElem?_eq_some_iff.mp here).1
  refine ⟨_, List.getElem?_eq_getElem inside, ?_⟩
  rw [found, List.getElem?_zipWith, List.getElem?_map, here, List.getElem?_eq_getElem inside]
  rfl

/-! ### One lookup -/

section Lookup

variable (e : Engine σ τ) (key : Key) (w : World σ τ)

theorem lookup_eq :
    e.lookup key w =
      (Store.verdictFor key (e.store.get w.store key).1,
        match (e.store.get w.store key).1 with
        | .ok _ => { w with store := (e.store.get w.store key).2 }
        | .error fault => { w with store := (e.store.get w.store key).2 }.note (.lookupFailed fault)) := by
  rcases asked : e.store.get w.store key with ⟨answer, t⟩
  rcases answer with fault | _ | entry <;> simp only [lookup, asked, Store.verdictFor]

theorem lookup_fst : (e.lookup key w).1 = Store.verdictFor key (e.store.get w.store key).1 := by
  rw [lookup_eq]

theorem lookup_store : (e.lookup key w).2.store = (e.store.get w.store key).2 := by
  rw [lookup_eq]
  dsimp only
  split <;> rfl

/-- Two worlds that differ in nothing but their stores and notices. -/
def Alike (w w' : World σ τ) : Prop :=
  w'.judge = w.judge ∧ w'.aborted = w.aborted ∧ w'.abortAt = w.abortAt ∧ w'.calls = w.calls ∧
    w'.filed = w.filed

theorem Alike.refl (w : World σ τ) : Alike w w := ⟨rfl, rfl, rfl, rfl, rfl⟩

theorem Alike.trans {w₁ w₂ w₃ : World σ τ} (first : Alike w₁ w₂) (second : Alike w₂ w₃) : Alike w₁ w₃ := by
  obtain ⟨judge, aborted, abortAt, calls, filed⟩ := first
  obtain ⟨judge', aborted', abortAt', calls', filed'⟩ := second
  exact ⟨judge'.trans judge, aborted'.trans aborted, abortAt'.trans abortAt, calls'.trans calls,
    filed'.trans filed⟩

theorem Alike.isOver {w w' : World σ τ} (alike : Alike w w') (time calls : Nat) :
    w'.isOver time calls = w.isOver time calls := by
  obtain ⟨_, aborted, abortAt, _, _⟩ := alike
  rw [World.isOver, World.isOver, aborted, abortAt]

theorem Alike.isAborted {w w' : World σ τ} (alike : Alike w w') (time : Nat) :
    w'.isAborted time = w.isAborted time := by
  rw [World.isAborted, World.isAborted, alike.isOver, alike.2.2.2.1]

theorem lookup_alike : Alike w (e.lookup key w).2 := by
  rw [lookup_eq]
  dsimp only
  split <;> exact ⟨rfl, rfl, rfl, rfl, rfl⟩

end Lookup

/-! ### The lookups of a group -/

theorem assign_cons (e : Engine σ τ) (missed : List Key) (task : Task) (rest : List Task) (w : World σ τ) :
    e.assign missed (task :: rest) w =
      match (e.lookup task.key w).1 with
      | some v =>
        let others := e.assign missed rest (e.lookup task.key w).2
        ({ task, key := task.key, origin := .served v } :: others.1, others.2)
      | none =>
        let others := e.assign (task.key :: missed) rest (e.lookup task.key w).2
        ({ task, key := task.key, origin := if missed.contains task.key then .shared else .checked } ::
          others.1, others.2) := by
  rcases looked : e.lookup task.key w with ⟨_ | v, w'⟩ <;> simp only [assign, looked]

theorem assign_slots (e : Engine σ τ) (missed : List Key) (tasks : List Task) (w : World σ τ) :
    (e.assign missed tasks w).1 = slotsOf missed tasks (e.found tasks w.store) := by
  induction tasks generalizing missed w with
  | nil => rfl
  | cons task rest ih =>
    rw [assign_cons, found_cons, ← lookup_fst, ← lookup_store]
    cases (e.lookup task.key w).1 with
    | some v => simp only [slotsOf, ih]
    | none => simp only [slotsOf, ih]

theorem assign_alike (e : Engine σ τ) (missed : List Key) (tasks : List Task) (w : World σ τ) :
    Alike w (e.assign missed tasks w).2 := by
  induction tasks generalizing missed w with
  | nil => exact Alike.refl w
  | cons task rest ih =>
    have first := lookup_alike e task.key w
    rw [assign_cons]
    cases (e.lookup task.key w).1 with
    | some v => exact first.trans (ih _ _)
    | none => exact first.trans (ih _ _)

/-! ### Slots -/

theorem slotsOf_tasks (missed : List Key) {tasks : List Task} {found : List (Option Verdict)}
    (same : found.length = tasks.length) : (slotsOf missed tasks found).map Slot.task = tasks := by
  induction tasks generalizing missed found with
  | nil => simp [slotsOf]
  | cons task rest ih =>
    cases found with
    | nil => exact absurd same (by simp)
    | cons first others =>
      have shorter : others.length = rest.length := Nat.succ.inj same
      cases first with
      | some v => simp only [slotsOf, List.map_cons, ih _ shorter]
      | none => simp only [slotsOf, List.map_cons, ih _ shorter]

def originOf (missed : List Key) (key : Key) : Option Verdict → Origin
  | some v => .served v
  | none => if missed.contains key then .shared else .checked

/-- The slot at a place is determined by the task there, what the store has for it, and the keys that
were missed up to it. -/
theorem slotsOf_getElem? (missed : List Key) {tasks : List Task} {found : List (Option Verdict)} {i : Nat}
    {task : Task} {v? : Option Verdict} (here : tasks[i]? = some task) (has : found[i]? = some v?) :
    ∃ before : List Key, (∀ key, key ∈ before ↔ key ∈ missed ∨ key ∈ missedKeys (tasks.take i) (found.take i)) ∧
      (slotsOf missed tasks found)[i]? = some { task, key := task.key, origin := originOf before task.key v? } := by
  induction tasks generalizing missed found i with
  | nil => simp at here
  | cons first rest ih =>
    cases found with
    | nil => simp at has
    | cons f others =>
      cases i with
      | zero =>
        simp only [List.getElem?_cons_zero, Option.some.injEq] at here has
        subst first f
        refine ⟨missed, by simp [missedKeys], ?_⟩
        cases v? <;> rfl
      | succ i =>
        simp only [List.getElem?_cons_succ] at here has
        cases f with
        | some v =>
          obtain ⟨before, members, slot⟩ := ih missed here has
          exact ⟨before, by simpa [missedKeys] using members, by simpa [slotsOf] using slot⟩
        | none =>
          obtain ⟨before, members, slot⟩ := ih (first.key :: missed) here has
          refine ⟨before, ?_, by simpa [slotsOf] using slot⟩
          intro key
          rw [members key, List.take_succ_cons, List.take_succ_cons, missedKeys, List.mem_cons, List.mem_cons]
          rw [or_assoc, or_left_comm]

theorem mem_missedKeys {tasks : List Task} {found : List (Option Verdict)} {key : Key} :
    key ∈ missedKeys tasks found ↔
      ∃ (j : Nat) (task : Task), tasks[j]? = some task ∧ found[j]? = some none ∧ task.key = key := by
  induction tasks generalizing found with
  | nil => simp [missedKeys]
  | cons first rest ih =>
    cases found with
    | nil => simp [missedKeys]
    | cons f others =>
      constructor
      · intro member
        cases f with
        | some v =>
          obtain ⟨j, task, here, has, same⟩ := ih.mp member
          exact ⟨j + 1, task, here, has, same⟩
        | none =>
          rcases List.mem_cons.mp member with same | member
          · exact ⟨0, first, rfl, rfl, same.symm⟩
          · obtain ⟨j, task, here, has, same⟩ := ih.mp member
            exact ⟨j + 1, task, here, has, same⟩
      · rintro ⟨j, task, here, has, same⟩
        cases j with
        | zero =>
          simp only [List.getElem?_cons_zero, Option.some.injEq] at here has
          subst first f
          exact List.mem_cons.mpr (Or.inl same.symm)
        | succ j =>
          have later : key ∈ missedKeys rest others := ih.mpr ⟨j, task, here, has, same⟩
          cases f with
          | some v => exact later
          | none => exact List.mem_cons_of_mem _ later

/-! ### Jobs -/

theorem mem_jobsOf {slots : List Slot} {job : Job} :
    job ∈ Group.jobsOf slots ↔
      ∃ s ∈ slots, s.origin = .checked ∧ job = { task := s.task, key := s.key } := by
  unfold Group.jobsOf
  rw [List.mem_filterMap]
  constructor
  · rintro ⟨s, member, made⟩
    cases origin : s.origin with
    | checked =>
      rw [origin] at made
      exact ⟨s, member, origin, (Option.some.inj made).symm⟩
    | served v => rw [origin] at made; exact absurd made (by simp)
    | shared => rw [origin] at made; exact absurd made (by simp)
  · rintro ⟨s, member, origin, rfl⟩
    exact ⟨s, member, by rw [origin]⟩

theorem jobsOf_cons_of_checked {s : Slot} (checked : s.origin = .checked) (rest : List Slot) :
    Group.jobsOf (s :: rest) = { task := s.task, key := s.key } :: Group.jobsOf rest := by
  rw [Group.jobsOf, List.filterMap_cons, checked]
  rfl

theorem jobsOf_cons_of_other {s : Slot} (other : s.origin ≠ .checked) (rest : List Slot) :
    Group.jobsOf (s :: rest) = Group.jobsOf rest := by
  rw [Group.jobsOf, List.filterMap_cons]
  cases origin : s.origin with
  | checked => exact absurd origin other
  | served v => rfl
  | shared => rfl

theorem key_of_mem_slotsOf {missed : List Key} {tasks : List Task} {found : List (Option Verdict)} {s : Slot}
    (member : s ∈ slotsOf missed tasks found) : s.key = s.task.key ∧ s.task ∈ tasks := by
  induction tasks generalizing missed found with
  | nil => simp [slotsOf] at member
  | cons task rest ih =>
    cases found with
    | nil => simp [slotsOf] at member
    | cons f others =>
      cases f with
      | some v =>
        rcases List.mem_cons.mp member with rfl | member
        · exact ⟨rfl, List.mem_cons_self⟩
        · exact ⟨(ih member).1, List.mem_cons_of_mem _ (ih member).2⟩
      | none =>
        rcases List.mem_cons.mp member with rfl | member
        · exact ⟨rfl, List.mem_cons_self⟩
        · exact ⟨(ih member).1, List.mem_cons_of_mem _ (ih member).2⟩

/-- Checked tasks have keys that were not missed before, and no two of them have the same one. -/
theorem jobsOf_slotsOf_nodup (missed : List Key) (tasks : List Task) (found : List (Option Verdict)) :
    ((Group.jobsOf (slotsOf missed tasks found)).map Job.key).Nodup ∧
      ∀ job ∈ Group.jobsOf (slotsOf missed tasks found), job.key ∉ missed := by
  induction tasks generalizing missed found with
  | nil => simp [slotsOf, Group.jobsOf]
  | cons task rest ih =>
    cases found with
    | nil => simp [slotsOf, Group.jobsOf]
    | cons f others =>
      cases f with
      | some v => exact ih missed others
      | none =>
        obtain ⟨distinct, fresh⟩ := ih (task.key :: missed) others
        by_cases seen : missed.contains task.key
        · have jobs : Group.jobsOf (slotsOf missed (task :: rest) (none :: others)) =
              Group.jobsOf (slotsOf (task.key :: missed) rest others) := by
            rw [slotsOf, if_pos seen]
            rfl
          rw [jobs]
          exact ⟨distinct, fun job member old => fresh job member (List.mem_cons_of_mem _ old)⟩
        · have jobs : Group.jobsOf (slotsOf missed (task :: rest) (none :: others)) =
              task.job :: Group.jobsOf (slotsOf (task.key :: missed) rest others) := by
            rw [slotsOf, if_neg seen]
            rfl
          rw [jobs]
          refine ⟨?_, ?_⟩
          · rw [List.map_cons, List.nodup_cons]
            refine ⟨?_, distinct⟩
            intro member
            obtain ⟨job, here, same⟩ := List.mem_map.mp member
            exact fresh job here (same ▸ List.mem_cons_self)
          · intro job member old
            rcases List.mem_cons.mp member with rfl | member
            · exact seen (by simpa using old)
            · exact fresh job member (List.mem_cons_of_mem _ old)

end Engine

end PolicyLint
