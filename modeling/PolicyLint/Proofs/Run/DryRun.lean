import Mathlib.Data.List.Nodup
import PolicyLint.Proofs.Run.Accounting
import PolicyLint.Run.DryRun

/-!
# What a dry run foretells

A dry run looks the keys of its tasks up as a run does, so it sees the same slots. `Ran.foretold` says what
the two have in common: how many tasks there are, which of them the store does not answer, how many of
these are put to the judge, and what is found for the others.
-/

namespace PolicyLint

def Task.place (t : Task) : String × String := (t.file.path, t.rule.name)

def Origin.verdict? : Origin → Option Verdict
  | .served v => some v
  | .checked => none
  | .shared => none

def Slot.isUnserved (s : Slot) : Bool := s.origin.verdict?.isNone

def Slot.answer? (s : Slot) : Option Verdict := s.origin.verdict?.map fun v => v.servedTo s.task

def Slot.pending (s : Slot) : Pending := { path := s.task.file.path, rule := s.task.rule.name }

def Store.looked {τ : Type} (s : Store τ) (keys : List Key) (t : τ) : τ := keys.foldl (fun t k => (s.get t k).2) t

/-- Every lookup from a state on is answered by its key alone. -/
def Store.Steady {τ : Type} (s : Store τ) (t : τ) : Prop :=
  ∃ answer, ∀ keys, s.answers keys t = keys.map answer

theorem Store.answers_append {τ : Type} (s : Store τ) (a b : List Key) (t : τ) :
    s.answers (a ++ b) t = s.answers a t ++ s.answers b (s.looked a t) := by
  induction a generalizing t with
  | nil => rfl
  | cons k rest ih =>
    rw [List.cons_append, Store.answers, Store.answers, ih, List.cons_append]
    rfl

theorem Store.Steady.looked {τ : Type} {s : Store τ} {t : τ} (steady : s.Steady t) (before keys : List Key) :
    s.answers keys (s.looked before t) = s.answers keys t := by
  obtain ⟨answer, answers⟩ := steady
  have both := s.answers_append before keys t
  rw [answers, answers, List.map_append] at both
  rw [answers]
  exact (List.append_cancel_left both).symm

namespace Engine

variable {σ τ : Type} {e : Engine σ τ}

/-! ### Dry runs see the slots of runs -/

theorem lookupAll_eq (e : Engine σ τ) (tasks : List Task) (w : World σ τ) :
    (e.lookupAll tasks w).1 = tasks.zip (e.found tasks w.store) ∧ Alike w (e.lookupAll tasks w).2 ∧
      (e.lookupAll tasks w).2.store = e.store.looked (tasks.map Task.key) w.store := by
  induction tasks generalizing w with
  | nil => exact ⟨rfl, Alike.refl w, rfl⟩
  | cons task rest ih =>
    obtain ⟨found, alike, store⟩ := ih (e.lookup task.key w).2
    rw [lookup_store] at found store
    refine ⟨?_, (lookup_alike e task.key w).trans alike, store⟩
    rw [found_cons, ← lookup_fst, List.zip_cons_cons, ← found]
    rfl

theorem slotsOf_zip (missed : List Key) {tasks : List Task} {found : List (Option Verdict)}
    (same : found.length = tasks.length) :
    (slotsOf missed tasks found).map (fun s => (s.task, s.origin.verdict?)) = tasks.zip found := by
  induction tasks generalizing missed found with
  | nil => simp [slotsOf]
  | cons task rest ih =>
    cases found with
    | nil => exact absurd same (by simp)
    | cons first others =>
      have shorter : others.length = rest.length := Nat.succ.inj same
      cases first with
      | some v => rw [slotsOf, List.map_cons, ih _ shorter, List.zip_cons_cons, Origin.verdict?]
      | none =>
        have origin : (if missed.contains task.key then Origin.shared else .checked).verdict? = none := by
          split
          · rfl
          · rfl
        rw [slotsOf, List.map_cons, ih _ shorter, List.zip_cons_cons, origin]

theorem dryRun_eq (e : Engine σ τ) (tasks : List Task) (w : World σ τ) :
    (e.dryRun tasks w).1 =
      { cached := Verdict.fold ((e.slotsFrom tasks w.store).filterMap Slot.answer?)
        pending := ((e.slotsFrom tasks w.store).filter Slot.isUnserved).map Slot.pending
        calls := (((e.slotsFrom tasks w.store).filter Slot.isUnserved).map fun s => s.task.key).eraseDups.length } := by
  have zipped := slotsOf_zip [] (length_found e tasks w.store)
  have hits : (tasks.zip (e.found tasks w.store)).filterMap (fun x => x.2.map fun v => v.servedTo x.1) =
      (e.slotsFrom tasks w.store).filterMap Slot.answer? := by
    rw [← zipped, List.filterMap_map]
    rfl
  have misses : (tasks.zip (e.found tasks w.store)).filterMap (fun x => if x.2.isNone then some x.1 else none) =
      ((e.slotsFrom tasks w.store).filter Slot.isUnserved).map Slot.task := by
    rw [← zipped, List.filterMap_map, ← List.filterMap_eq_map, List.filterMap_filter]
    rfl
  rw [dryRun]
  dsimp only
  rw [(lookupAll_eq e tasks w).1, hits, misses, List.map_map, List.map_map]
  rfl

/-! ### How many tasks are put to the judge -/

theorem nodup_eraseDups (keys : List Key) : keys.eraseDups.Nodup := by
  induction long : keys.length using Nat.strongRecOn generalizing keys with
  | ind n ih =>
    cases keys with
    | nil => exact List.nodup_nil
    | cons k rest =>
      have shorter : (rest.filter fun k' => !k' == k).length < n := by
        rw [← long, List.length_cons]
        exact Nat.lt_succ_of_le (List.length_filter_le _ _)
      rw [List.eraseDups_cons, List.nodup_cons]
      refine ⟨?_, ih _ shorter _ rfl⟩
      rw [List.mem_eraseDups, List.mem_filter]
      simp

theorem job_of_unserved {missed : List Key} {tasks : List Task} {found : List (Option Verdict)} {s : Slot}
    (member : s ∈ slotsOf missed tasks found) (unserved : s.isUnserved = true) :
    s.key ∈ missed ∨ s.key ∈ (Group.jobsOf (slotsOf missed tasks found)).map Job.key := by
  induction tasks generalizing missed found with
  | nil => simp [slotsOf] at member
  | cons task rest ih =>
    cases found with
    | nil => simp [slotsOf] at member
    | cons f others =>
      cases f with
      | some v =>
        rcases List.mem_cons.mp member with rfl | later
        · exact absurd unserved (by simp [Slot.isUnserved, Origin.verdict?])
        · exact ih later
      | none =>
        by_cases seen : missed.contains task.key
        · have jobs : Group.jobsOf (slotsOf missed (task :: rest) (none :: others)) =
              Group.jobsOf (slotsOf (task.key :: missed) rest others) := by
            rw [slotsOf, if_pos seen]
            rfl
          rw [jobs]
          rw [List.contains_iff_mem] at seen
          rcases List.mem_cons.mp member with rfl | later
          · exact Or.inl seen
          · rcases ih later with before | job
            · rcases List.mem_cons.mp before with same | old
              · exact Or.inl (same ▸ seen)
              · exact Or.inl old
            · exact Or.inr job
        · have jobs : Group.jobsOf (slotsOf missed (task :: rest) (none :: others)) =
              task.job :: Group.jobsOf (slotsOf (task.key :: missed) rest others) := by
            rw [slotsOf, if_neg seen]
            rfl
          rw [jobs, List.map_cons]
          rcases List.mem_cons.mp member with rfl | later
          · exact Or.inr List.mem_cons_self
          · rcases ih later with before | job
            · rcases List.mem_cons.mp before with same | old
              · exact Or.inr (List.mem_cons.mpr (Or.inl same))
              · exact Or.inl old
            · exact Or.inr (List.mem_cons_of_mem _ job)

/-- There are as many keys of tasks that the store does not answer as there are jobs. -/
theorem length_unserved_keys (tasks : List Task) (found : List (Option Verdict)) :
    (((slotsOf [] tasks found).filter Slot.isUnserved).map fun s => s.task.key).eraseDups.length =
      (Group.jobsOf (slotsOf [] tasks found)).length := by
  have distinct := (jobsOf_slotsOf_nodup [] tasks found).1
  have jobs : ((Group.jobsOf (slotsOf [] tasks found)).map Job.key).length = (Group.jobsOf (slotsOf [] tasks found)).length :=
    List.length_map _
  rw [← jobs]
  -- Neither list of keys has duplicates, so it is enough that they have the same members.
  apply List.Perm.length_eq
  rw [List.perm_ext_iff_of_nodup (nodup_eraseDups _) distinct]
  intro key
  rw [List.mem_eraseDups]
  constructor
  · intro member
    obtain ⟨s, listed, rfl⟩ := List.mem_map.mp member
    obtain ⟨slot, unserved⟩ := List.mem_filter.mp listed
    rcases job_of_unserved slot unserved with none | job
    · exact absurd none (by simp)
    · rw [(key_of_mem_slotsOf slot).1] at job
      exact job
  · intro member
    obtain ⟨job, known, rfl⟩ := List.mem_map.mp member
    obtain ⟨s, slot, checked, rfl⟩ := mem_jobsOf.mp known
    have unserved : s.isUnserved = true := by rw [Slot.isUnserved, checked, Origin.verdict?]; rfl
    rw [(key_of_mem_slotsOf slot).1]
    exact List.mem_map.mpr ⟨s, List.mem_filter.mpr ⟨slot, unserved⟩, rfl⟩

/-! ### What is found for the tasks that the store answers -/

section Counting

variable {α : Type} [DecidableEq α] {items : Verdict → List α} (results : Key → Verdict)

theorem verdictOf_of_answer {s : Slot} {v : Verdict} (answer : s.answer? = some v) : verdictOf results s = v := by
  unfold Slot.answer? at answer
  cases origin : s.origin with
  | served u =>
    rw [origin] at answer
    rw [verdictOf, origin]
    exact Option.some.inj answer
  | checked =>
    rw [origin] at answer
    exact absurd answer (by simp [Origin.verdict?])
  | shared =>
    rw [origin] at answer
    exact absurd answer (by simp [Origin.verdict?])

theorem count_answers (x : α) {slots : List Slot}
    (absent : ∀ s ∈ slots, s.answer? = none → x ∉ items (verdictOf results s)) :
    ((slots.map (verdictOf results)).flatMap items).count x = ((slots.filterMap Slot.answer?).flatMap items).count x := by
  induction slots with
  | nil => rfl
  | cons s rest ih =>
    have later := ih fun s' member => absent s' (List.mem_cons_of_mem _ member)
    rw [List.map_cons, List.flatMap_cons, List.count_append, later]
    cases answer : s.answer? with
    | none => rw [List.filterMap_cons_none answer, List.count_eq_zero_of_not_mem (absent s List.mem_cons_self answer), Nat.zero_add]
    | some v => rw [List.filterMap_cons_some answer, List.flatMap_cons, List.count_append, verdictOf_of_answer results answer]

/-- What is said about the tasks that the store answers is said by its answers alone, if all tasks have
different places. -/
theorem count_of_answered {results : Key → Verdict} (placeOf : α → String × String) {slots : List Slot}
    (distinct : (slots.map fun s => s.task.place).Nodup)
    (speaks : ∀ s ∈ slots, ∀ x ∈ items (verdictOf results s), placeOf x = s.task.place) {x : α}
    (said : x ∈ (slots.filterMap Slot.answer?).flatMap items) :
    ((slots.map (verdictOf results)).flatMap items).count x = ((slots.filterMap Slot.answer?).flatMap items).count x := by
  apply count_answers results
  intro s member unserved there
  obtain ⟨v, answered, here⟩ := List.mem_flatMap.mp said
  obtain ⟨s', member', answer⟩ := List.mem_filterMap.mp answered
  rw [← verdictOf_of_answer results answer] at here
  -- Only one task has the place of what is said, and the store answers that one.
  have same := List.inj_on_of_nodup_map distinct member member' ((speaks s member x there).symm.trans (speaks s' member' x here))
  rw [same, answer] at unserved
  exact absurd unserved (by simp)

end Counting

/-! ### What comes true -/

section Foretelling

variable {stopped : Nat → Prop} {tasks : List Task} {w w' : World σ τ} {results : Key → Verdict} {verdicts : List Verdict}

theorem Ran.speaks (ran : e.Ran stopped tasks w w' results verdicts) {s : Slot} (member : s ∈ e.slotsFrom tasks w.store) :
    (verdictOf results s).SpeaksOf s.task.file.path s.task.rule.name ∧ (verdictOf results s).checks = 1 := by
  unfold verdictOf
  cases origin : s.origin with
  | served v => exact ⟨v.speaksOf_servedTo s.task, (v.free_servedTo s.task).checks⟩
  | checked =>
    have after := (ran.finished _ (mem_jobsOf.mpr ⟨s, member, origin, rfl⟩)).1
    exact ⟨after.speaksOf, after.bills.checks⟩
  | shared => exact ⟨(results s.key).speaksOf_sharedWith s.task, ((results s.key).free_sharedWith s.task).checks⟩

theorem Ran.misses (ran : e.Ran stopped tasks w w' results verdicts) :
    (Verdict.fold verdicts).misses = (Group.jobsOf (e.slotsFrom tasks w.store)).length := by
  have served : ∀ v t, (Verdict.servedTo v t).misses = 0 := fun v t => (v.free_servedTo t).misses
  have shared : ∀ v t, (Verdict.sharedWith v t).misses = 0 := fun v t => (v.free_sharedWith t).misses
  rw [Verdict.count_fold verdicts Verdict.misses (fun _ _ => rfl) rfl, ran.verdicts,
    total_verdictOf served shared, ← total_one]
  exact total_congr fun job member => (ran.finished job member).1.bills.misses

theorem Ran.checks (ran : e.Ran stopped tasks w w' results verdicts) : (Verdict.fold verdicts).checks = verdicts.length := by
  rw [Verdict.count_fold verdicts Verdict.checks (fun _ _ => rfl) rfl, ← total_one]
  refine total_congr ?_
  intro v member
  rw [ran.verdicts] at member
  obtain ⟨s, slot, rfl⟩ := List.mem_map.mp member
  exact (ran.speaks slot).2

theorem length_filter_unserved (slots : List Slot) :
    (slots.filterMap Slot.answer?).length + (slots.filter Slot.isUnserved).length = slots.length := by
  induction slots with
  | nil => rfl
  | cons s rest ih =>
    cases answer : s.origin.verdict? with
    | none =>
      rw [List.filterMap_cons_none (by rw [Slot.answer?, answer]; rfl),
        List.filter_cons_of_pos (by rw [Slot.isUnserved, answer]; rfl), List.length_cons, List.length_cons, ← ih,
        Nat.add_assoc]
    | some v =>
      rw [List.filterMap_cons_some (by rw [Slot.answer?, answer]; rfl),
        List.filter_cons_of_neg (by rw [Slot.isUnserved, answer]; simp), List.length_cons, List.length_cons, ← ih]
      omega

/-- What a plan says about the slots of a run and what they come to. -/
structure Foretells (plan : DryRun) (slots : List Slot) (v : Verdict) : Prop where
  checks : plan.checks = v.checks
  calls : plan.calls = v.misses
  pending : plan.pending = (slots.filter Slot.isUnserved).map Slot.pending
  findings : ∀ f ∈ plan.cached.findings, v.findings.count f = plan.cached.findings.count f
  failures : ∀ f ∈ plan.cached.failures, v.failures.count f = plan.cached.failures.count f

theorem Foretells.normalized {plan : DryRun} {slots : List Slot} {v : Verdict} (foretells : Foretells plan slots v) :
    Foretells { plan with cached := plan.cached.normalized } slots v.normalized where
  checks := foretells.checks
  calls := foretells.calls
  pending := foretells.pending
  findings f said := by
    rw [Verdict.normalized, Verdict.normalized, (List.mergeSort_perm _ _).count_eq, (List.mergeSort_perm _ _).count_eq]
    exact foretells.findings f (List.mem_mergeSort.mp said)
  failures f said := by
    rw [Verdict.normalized, Verdict.normalized, (List.mergeSort_perm _ _).count_eq, (List.mergeSort_perm _ _).count_eq]
    exact foretells.failures f (List.mem_mergeSort.mp said)

theorem Ran.foretold (ran : e.Ran stopped tasks w w' results verdicts) (distinct : (tasks.map Task.place).Nodup)
    {w₀ : World σ τ} (same : e.found tasks w₀.store = e.found tasks w.store) :
    Foretells (e.dryRun tasks w₀).1 (e.slotsFrom tasks w.store) (Verdict.fold verdicts) := by
  have slots : e.slotsFrom tasks w₀.store = e.slotsFrom tasks w.store := by rw [slotsFrom, same, slotsFrom]
  have places : ((e.slotsFrom tasks w.store).map fun s => s.task.place).Nodup := by
    have tasksHere := slotsOf_tasks [] (length_found e tasks w.store)
    rw [← tasksHere, List.map_map] at distinct
    exact distinct
  rw [dryRun_eq, slots]
  have one : ∀ v ∈ (e.slotsFrom tasks w.store).filterMap Slot.answer?, v.checks = 1 := by
    intro v member
    obtain ⟨s, slot, answer⟩ := List.mem_filterMap.mp member
    rw [← verdictOf_of_answer results answer]
    exact (ran.speaks slot).2
  have cached : (Verdict.fold ((e.slotsFrom tasks w.store).filterMap Slot.answer?)).checks =
      ((e.slotsFrom tasks w.store).filterMap Slot.answer?).length := by
    rw [Verdict.count_fold _ Verdict.checks (fun _ _ => rfl) rfl, ← total_one]
    exact total_congr one
  refine ⟨?_, ?_, rfl, ?_, ?_⟩
  · rw [ran.checks, ran.verdicts, List.length_map, ← length_filter_unserved, DryRun.checks, List.length_map]
    dsimp only
    rw [cached]
  · rw [ran.misses]
    exact length_unserved_keys tasks _
  · rw [Verdict.findings_fold, Verdict.findings_fold, ran.verdicts]
    intro f said
    refine count_of_answered (fun f : Finding => (f.path, f.rule)) places ?_ said
    intro s member f there
    obtain ⟨path, rule⟩ := (ran.speaks member).1.1 f there
    rw [path, rule, Task.place]
  · rw [Verdict.failures_fold, Verdict.failures_fold, ran.verdicts]
    intro f said
    refine count_of_answered (fun f : Failure => (f.path, f.rule)) places ?_ said
    intro s member f there
    obtain ⟨path, rule⟩ := (ran.speaks member).1.2 f there
    rw [path, rule, Task.place]

end Foretelling

end Engine

end PolicyLint
