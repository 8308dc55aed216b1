import Mathlib.Data.List.Forall2
import PolicyLint.Proofs.Run.Verdicts

/-!
# Where the answers of a run come from

A store is faithful if it hands out nothing under a key but what was written for the key before or is filed
for it from now on. `runGroups_answered` says that with such a store each task of a run is answered by a
check of its key, be it an earlier one, its own or one that it shares, whatever the bounds are, whenever the
run is stopped and however the groups get into each other's way.
-/

namespace PolicyLint

inductive StoreUse where
  | look (k : Key)
  | file (k : Key) (v : Verdict)
  | save

def StoreUse.filed : StoreUse → List (Key × Verdict)
  | file k v => [(k, v)]
  | look _ | save => []

/-! ### Faithful stores -/

namespace Store

variable {τ : Type} {s : Store τ} {t : τ} {written : Key → Verdict → Prop}

def use (s : Store τ) (t : τ) : StoreUse → τ
  | .look k => (s.get t k).2
  | .file k v => (s.set t k v).2
  | .save => (s.flush t).2

def uses (s : Store τ) (made : List StoreUse) (t : τ) : τ := made.foldl s.use t

/-- Whatever the store will hand out under its own key was written before or is filed from now on. -/
def Faithful (s : Store τ) (written : Key → Verdict → Prop) (t : τ) : Prop :=
  ∀ (made : List StoreUse) (k : Key) (entry : Entry), (s.get (s.uses made t) k).1 = .ok (some entry) → entry.key = k →
    written k entry.verdict ∨ (k, entry.verdict) ∈ made.flatMap StoreUse.filed

theorem uses_append (s : Store τ) (made more : List StoreUse) (t : τ) :
    s.uses (made ++ more) t = s.uses more (s.uses made t) := List.foldl_append

theorem Faithful.later (faithful : s.Faithful written t) (made : List StoreUse) :
    s.Faithful (fun k v => written k v ∨ (k, v) ∈ made.flatMap StoreUse.filed) (s.uses made t) := by
  intro more k entry found own
  rw [← uses_append] at found
  rcases faithful (made ++ more) k entry found own with before | since
  · exact Or.inl (Or.inl before)
  · rw [List.flatMap_append] at since
    rcases List.mem_append.mp since with first | last
    · exact Or.inl (Or.inr first)
    · exact Or.inr last

theorem Faithful.mono {written' : Key → Verdict → Prop} (faithful : s.Faithful written t)
    (more : ∀ k v, written k v → written' k v) : s.Faithful written' t := by
  intro made k entry found own
  rcases faithful made k entry found own with before | since
  · exact Or.inl (more k _ before)
  · exact Or.inr since

end Store

namespace Engine

variable {σ τ : Type} {e : Engine σ τ} {stopped : Nat → Prop} {written : Key → Verdict → Prop} {base : World σ τ}

theorem assign_uses (e : Engine σ τ) (missed : List Key) (tasks : List Task) (w : World σ τ) :
    (e.assign missed tasks w).2.store = e.store.uses (tasks.map fun t => .look t.key) w.store := by
  induction tasks generalizing missed w with
  | nil => rfl
  | cons task rest ih =>
    have first : e.store.uses ((task :: rest).map fun t => .look t.key) w.store =
        e.store.uses (rest.map fun t => .look t.key) (e.lookup task.key w).2.store := by
      rw [lookup_store]
      rfl
    rw [first, assign_cons]
    cases (e.lookup task.key w).1 with
    | some v => exact ih _ _
    | none => exact ih _ _

/-- What the store has for tasks was written under their keys before. -/
theorem written_of_found (e : Engine σ τ) {tasks : List Task} {t : τ} (faithful : e.store.Faithful written t) {i : Nat}
    {task : Task} {v : Verdict} (here : tasks[i]? = some task) (has : (e.found tasks t)[i]? = some (some v)) :
    written task.key v := by
  induction tasks generalizing t i with
  | nil => exact absurd here (by simp)
  | cons first rest ih =>
    rw [found_cons] at has
    cases i with
    | zero =>
      obtain rfl := Option.some.inj here
      obtain ⟨entry, found, own, rfl⟩ := Store.verdictFor_eq_some (Option.some.inj has)
      rcases faithful [] first.key entry found own with before | since
      · exact before
      · exact absurd since (by simp)
    | succ i =>
      have looked := faithful.later [.look first.key]
      refine ih (looked.mono fun k v known => ?_) here has
      rcases known with before | since
      · exact before
      · exact absurd since (by simp [StoreUse.filed])

/-! ### What checks file -/

/-- A check for a key, in whatever run, files the verdict. -/
def Files (e : Engine σ τ) (k : Key) (v : Verdict) : Prop :=
  ∃ (t : Task) (calls : List Call), k = t.key ∧ e.After (fun _ => True) t.job calls (.inr v) ∧ v.failures = []

theorem After.ever {job : Job} {calls : List Call} {p : Progress} (after : e.After stopped job calls p) :
    e.After (fun _ => True) job calls p := by
  cases after with
  | resting passed same phase cost left => exact .resting passed same phase cost left
  | calling passed asks same phase due cost left => exact .calling passed asks same phase due cost left
  | judged passed asks concluded => exact .judged passed asks concluded
  | failed passed asks concluded => exact .failed passed asks concluded
  | cancelled passed _ => exact .cancelled passed trivial

theorem files_of_filedFor {job : Job} {calls : List Call} {p : Progress} (keyed : job.key = job.task.key)
    (after : e.After stopped job calls p) : ∀ x ∈ filedFor job p, e.Files x.1 x.2 := by
  intro x member
  cases p with
  | inl c => exact absurd member (by simp [filedFor])
  | inr v =>
    unfold filedFor at member
    dsimp only at member
    split at member
    · rename_i judged
      obtain rfl := List.mem_singleton.mp member
      obtain ⟨t, k⟩ := job
      obtain rfl : k = t.key := keyed
      exact ⟨t, calls, rfl, after.ever, List.isEmpty_iff.mp judged⟩
    · exact absurd member (by simp)

/-- A world that has come out of an earlier one. Its store was used, and whatever was filed in it comes from
checks. -/
structure Sourced (e : Engine σ τ) (stopped : Nat → Prop) (base : World σ τ) (time : Nat) (w : World σ τ) : Prop where
  filed : w.filed = base.filed ++ w.filedSince base
  files : ∀ p ∈ w.filedSince base, e.Files p.1 p.2
  store : ∃ made, w.store = e.store.uses made base.store ∧ made.flatMap StoreUse.filed = w.filedSince base
  stop : ∀ t n, time ≤ t → w.isOver t n = true → stopped t

def Begun (e : Engine σ τ) (stopped : Nat → Prop) (job : Job) (stage : Stage) (_ : World σ τ) : Prop :=
  job.key = job.task.key ∧ ∀ p, stage = .reached p → ∃ calls, e.After stopped job calls p

theorem Sourced.refl (stops : e.Stops stopped base) : e.Sourced stopped base 0 base where
  filed := by rw [World.filedSince_self, List.append_nil]
  files p member := by rw [World.filedSince_self] at member; exact absurd member (by simp)
  store := ⟨[], rfl, by rw [World.filedSince_self]; rfl⟩
  stop t n _ := stops.begun t n

theorem sets_uses (s : Store τ) (filed : List (Key × Verdict)) (t : τ) :
    s.sets filed t = s.uses (filed.map fun p => .file p.1 p.2) t := by
  rw [Store.sets, Store.uses, List.foldl_map]
  rfl

theorem Sourced.follow {time : Nat} {w w' : World σ τ} {made : List Call} {calls : List Call} {job : Job} {p : Progress}
    (sourced : e.Sourced stopped base time w) (keyed : job.key = job.task.key)
    (follows : e.Follows w w' made (filedFor job p)) (after : e.After stopped job calls p)
    (stop : ∀ t n, time ≤ t → w'.isOver t n = true → stopped t) : e.Sourced stopped base time w' := by
  have filed := filedSince_follows sourced.filed follows
  refine ⟨?_, ?_, ?_, stop⟩
  · rw [filed, follows.filed, sourced.filed, List.append_assoc]
  · intro entry member
    rw [filed] at member
    rcases List.mem_append.mp member with old | new
    · exact sourced.files entry old
    · exact files_of_filedFor keyed after entry new
  · obtain ⟨uses, store, same⟩ := sourced.store
    refine ⟨uses ++ (filedFor job p).map fun x => .file x.1 x.2, ?_, ?_⟩
    · rw [follows.store, sets_uses, store, Store.uses_append]
    · rw [List.flatMap_append, same, filed, List.flatMap_map]
      show _ ++ (filedFor job p).flatMap (fun x => [x]) = _
      rw [List.flatMap_singleton']

theorem Begun.of_after {w : World σ τ} {job : Job} {calls : List Call} {p : Progress} (keyed : job.key = job.task.key)
    (after : e.After stopped job calls p) : e.Begun stopped job (.reached p) w := by
  refine ⟨keyed, ?_⟩
  intro p' same
  obtain rfl := Stage.reached.inj same
  exact ⟨calls, after⟩

/-- Checks with one key do not get into each other's way, so no keys need to be kept apart. -/
theorem sourced_upkeep (stops : e.Stops stopped base) :
    e.Upkeep (fun _ _ => True) (e.Sourced stopped base) (e.Begun stopped) where
  symm _ := trivial
  ofNe _ := trivial
  later sourced late := { sourced with stop := fun t n after => sourced.stop t n (Nat.le_trans late after) }
  start := by
    intro time job w sourced begun
    obtain ⟨made, follows, after, aborted, _⟩ := after_start e job (sourced.stop time _ (Nat.le_refl time))
    refine ⟨sourced.follow begun.1 follows after ?_, .of_after begun.1 after, fun _ before => before⟩
    intro t n late stop
    rw [World.isOver, aborted, follows.abortAt] at stop
    exact sourced.stop t n late stop
  step := by
    intro c w sourced begun
    obtain ⟨calls, sofar⟩ := begun.2 (.inl c) rfl
    obtain ⟨made, follows, after, aborted, _⟩ := after_step e sofar (sourced.stop c.due _ (Nat.le_refl c.due))
    refine ⟨sourced.follow begun.1 follows after ?_, .of_after begun.1 after, fun _ before => before⟩
    intro t n late stop
    rcases isOver_of_follows follows aborted stop with before | ends
    · exact sourced.stop t n late before
    · exact stopped_of_aborts stops sofar ends late

/-! ### Answers -/

/-- How a task is answered: with what is known for its key, by its own check, or by a check for its key that
it shares. -/
inductive Answered (e : Engine σ τ) (stopped : Nat → Prop) (written : Key → Verdict → Prop) (task : Task) :
    Verdict → Prop where
  | served {v : Verdict} (known : written task.key v ∨ e.Files task.key v) :
      Answered e stopped written task (v.servedTo task)
  | checked {v : Verdict} {calls : List Call} (after : e.After stopped task.job calls (.inr v)) :
      Answered e stopped written task v
  | shared {v : Verdict} {calls : List Call} {t : Task} (same : t.key = task.key)
      (after : e.After stopped t.job calls (.inr v)) : Answered e stopped written task (v.sharedWith task)

def Known (e : Engine σ τ) (written : Key → Verdict → Prop) (tasks : List Task) (found : List (Option Verdict)) : Prop :=
  ∀ (i : Nat) (task : Task) (v : Verdict), tasks[i]? = some task → found[i]? = some (some v) →
    written task.key v ∨ e.Files task.key v

theorem opens_of_faithful (faithful : e.store.Faithful written base.store) (tasks : List Task) :
    Opens e (e.Sourced stopped base) (e.Begun stopped) (e.Known written) tasks := by
  intro time w sourced _
  obtain ⟨uses, store, same⟩ := sourced.store
  have alike := assign_alike e [] tasks w
  have since : (e.assign [] tasks w).2.filedSince base = w.filedSince base := by
    rw [World.filedSince, alike.2.2.2.2, World.filedSince]
  refine ⟨⟨?_, ?_, ?_, ?_⟩, ?_, ?_, fun _ _ before => before⟩
  · rw [since, alike.2.2.2.2]
    exact sourced.filed
  · rw [since]
    exact sourced.files
  · refine ⟨uses ++ tasks.map fun t => .look t.key, ?_, ?_⟩
    · rw [assign_uses, store, Store.uses_append]
    · rw [List.flatMap_append, same, since, List.flatMap_map]
      show _ ++ tasks.flatMap (fun _ => []) = _
      rw [List.flatMap_eq_nil_iff.mpr fun _ _ => rfl, List.append_nil]
  · intro t n late stop
    rw [alike.isOver] at stop
    exact sourced.stop t n late stop
  · intro i task v here has
    rw [store] at has
    rcases written_of_found e (faithful.later uses) here has with before | since
    · exact Or.inl before
    · rw [same] at since
      exact Or.inr (sourced.files _ since)
  · intro job member
    rw [assign_slots] at member
    obtain ⟨t, _, rfl⟩ := mem_jobsOf_slotsOf member
    exact ⟨rfl, fun _ same => absurd same (by simp)⟩

theorem Settled.answered {tasks : List Task} {verdicts : List Verdict} {w : World σ τ}
    (settled : Settled (e.Begun stopped) (e.Known written) tasks verdicts w) :
    List.Forall₂ (e.Answered stopped written) tasks verdicts := by
  obtain ⟨found, results, long, known, rfl, ended, _⟩ := settled
  have after : ∀ {i : Nat} {t : Task}, FirstMissed tasks found i t →
      ∃ calls, e.After stopped t.job calls (.inr (results t.key)) := by
    intro i t first
    exact (ended _ (job_of_firstMissed long first)).2 _ rfl
  have listed : ((slotsOf [] tasks found).map (verdictOf results)).length = tasks.length := by
    rw [List.length_map, ← List.length_map Slot.task, slotsOf_tasks [] long]
  rw [List.forall₂_iff_get]
  refine ⟨listed.symm, fun i inside inside' => ?_⟩
  have here : tasks[i]? = some tasks[i] := List.getElem?_eq_getElem inside
  have verdict : ∀ {s : Slot}, (slotsOf [] tasks found)[i]? = some s →
      ((slotsOf [] tasks found).map (verdictOf results)).get ⟨i, inside'⟩ = verdictOf results s := by
    intro s slot
    have mapped : ((slotsOf [] tasks found).map (verdictOf results))[i]? = some (verdictOf results s) := by
      rw [List.getElem?_map, slot, Option.map_some]
    exact (List.getElem?_eq_some_iff.mp mapped).2
  rw [List.get_eq_getElem]
  rcases slotsOf_cases long here with ⟨v, has, slot⟩ | ⟨first, slot⟩ | ⟨_, ⟨j, t, _, same, first⟩, slot⟩
  · rw [verdict slot]
    exact .served (known i _ v here has)
  · rw [verdict slot]
    obtain ⟨calls, history⟩ := after first
    exact .checked history
  · rw [verdict slot]
    obtain ⟨calls, history⟩ := after first
    rw [same] at history
    exact .shared same history

theorem separate_of_all (groups : List (List Task)) : Separate (fun _ _ => True) groups :=
  List.pairwise_of_forall fun _ _ _ _ _ _ => trivial

theorem begun_waiting {w : World σ τ} (t : Task) : e.Begun stopped t.job .waiting w :=
  ⟨rfl, fun _ same => absurd same (by simp)⟩

/-- The tasks of a run are answered by what the store had for them before and by checks. -/
theorem runGroups_answered (e : Engine σ τ) {width bound : Nat} (groups : List (List Task)) {w : World σ τ}
    (wide : 0 < width) (room : 0 < bound) (stops : e.Stops stopped w) (faithful : e.store.Faithful written w.store) :
    List.Forall₂ (List.Forall₂ (e.Answered stopped written)) groups (e.runGroups width bound groups w).1.1 := by
  obtain ⟨_, settled⟩ := runGroups_keeps (sourced_upkeep stops) (separate_of_all groups) wide room (Sourced.refl stops)
    (fun _ _ t _ => begun_waiting t) fun tasks _ => opens_of_faithful faithful tasks
  have long : (e.runGroups width bound groups w).1.1.length = groups.length := length_runGroups ..
  rw [List.forall₂_iff_get]
  refine ⟨long.symm, fun i inside inside' => ?_⟩
  obtain ⟨vs, there, closed⟩ := settled i _ (List.getElem?_eq_getElem inside)
  have same := (List.getElem?_eq_some_iff.mp there).2
  rw [List.get_eq_getElem, List.get_eq_getElem, same]
  exact closed.answered

/-- Whatever a store is like, what a run files comes from checks. -/
theorem runGroups_sourced (e : Engine σ τ) {width bound : Nat} (groups : List (List Task)) {w : World σ τ}
    (wide : 0 < width) (room : 0 < bound) (stops : e.Stops stopped w) :
    ∃ time, e.Sourced stopped w time (e.runGroups width bound groups w).2 := by
  have anything : e.store.Faithful (fun _ _ => True) w.store := fun _ _ _ _ _ => Or.inl trivial
  exact ⟨_, (runGroups_keeps (sourced_upkeep stops) (separate_of_all groups) wide room (Sourced.refl stops)
    (fun _ _ t _ => begun_waiting t) fun tasks _ => opens_of_faithful anything tasks).1⟩

end Engine

end PolicyLint
