import PolicyLint.Proofs.Run.Counting

/-!
# The order of tasks

Of the tasks with one key that the store does not answer, the first one is checked, so tasks in another order may have
another one of them checked. With a store and a judge that go by keys, what each task is told is still the same, and so
is what all of them cost together.
-/

namespace PolicyLint

/-- However many keys were looked up before, the store answers each by itself. -/
def Store.AnswersBy {τ : Type} (s : Store τ) (answers : Key → Except StoreFault (Option Entry)) (t : τ) : Prop :=
  ∀ keys : List Key, s.answers keys t = keys.map answers

/-- The count has nothing to do with what a verdict says and when. -/
def Verdict.Weighs {M : Type} (count : Verdict → M) : Prop := ∀ v : Verdict, count v.cost = count v

theorem Verdict.Weighs.congr {M : Type} {count : Verdict → M} (weighs : Weighs count) {v u : Verdict} (same : v.cost = u.cost) :
    count v = count u := by
  rw [← weighs v, same, weighs u]

namespace Engine

variable {σ τ : Type} {e : Engine σ τ} {answers : Key → Except StoreFault (Option Entry)}
  {script : Key → Nat → Response} {stopped : Nat → Prop} {tasks tasks' : List Task}

def stored (answers : Key → Except StoreFault (Option Entry)) (t : Task) : Option Verdict :=
  Store.verdictFor t.key (answers t.key)

def replyTo (e : Engine σ τ) (answers : Key → Except StoreFault (Option Entry)) (script : Key → Nat → Response) (t : Task) :
    Verdict :=
  match stored answers t with
  | some v => v.servedTo t
  | none => (e.hearing t (e.brings script t.key)).sharedWith t

theorem replyTo_of_some {t : Task} {v : Verdict} (has : stored answers t = some v) :
    e.replyTo answers script t = v.servedTo t := by
  rw [replyTo, has]

theorem replyTo_of_none {t : Task} (missed : stored answers t = none) :
    e.replyTo answers script t = (e.hearing t (e.brings script t.key)).sharedWith t := by
  rw [replyTo, missed]

theorem speaksOf_replyTo (e : Engine σ τ) (answers : Key → Except StoreFault (Option Entry))
    (script : Key → Nat → Response) (t : Task) : (e.replyTo answers script t).SpeaksOf t.file.path t.rule.name := by
  cases has : stored answers t with
  | some v =>
    rw [replyTo_of_some has]
    exact v.speaksOf_servedTo t
  | none =>
    rw [replyTo_of_none has]
    exact Verdict.speaksOf_sharedWith _ t

theorem stored_of_key {t t' : Task} (same : t.key = t'.key) : stored answers t = stored answers t' := by
  rw [stored, stored, same]

theorem cost_replyTo {t t' : Task} (same : t.key = t'.key) :
    (e.replyTo answers script t).cost = (e.replyTo answers script t').cost := by
  cases has : stored answers t with
  | some v =>
    rw [replyTo_of_some has, replyTo_of_some (stored_of_key same ▸ has)]
    rfl
  | none =>
    rw [replyTo_of_none has, replyTo_of_none (stored_of_key same ▸ has), same, e.hearing_sharedWith t t',
      Verdict.cost_sharedWith _ t t']

/-! ### The slots of a run -/

theorem found_of_answersBy {t : τ} (fixed : e.store.AnswersBy answers t) (tasks : List Task) :
    e.found tasks t = tasks.map (stored answers) := by
  rw [found, fixed, List.zipWith_map_right, List.zipWith_self]
  exact List.map_map

section Sums

variable {M : Type} [Add M] [OfNat M 0] [Addable M]

theorem total_slots {count : Verdict → M} (part whole : Task → M) {results : Key → Verdict} {slots : List Slot}
    (others : ∀ s ∈ slots, s.origin ≠ .checked → count (verdictOf results s) = part s.task)
    (checked : ∀ s ∈ slots, s.origin = .checked → count (verdictOf results s) = whole s.task) :
    total count (slots.map (verdictOf results)) + total (fun job => part job.task) (Group.jobsOf slots) =
      total part (slots.map Slot.task) + total (fun job => whole job.task) (Group.jobsOf slots) := by
  induction slots with
  | nil => rfl
  | cons s rest ih =>
    have ih := ih (fun s member => others s (List.mem_cons_of_mem _ member))
      fun s member => checked s (List.mem_cons_of_mem _ member)
    rw [List.map_cons, List.map_cons, total, total]
    by_cases leads : s.origin = .checked
    · rw [jobsOf_cons_of_checked leads, total, total, checked s List.mem_cons_self leads]
      calc whole s.task + total count (rest.map (verdictOf results)) +
            (part s.task + total (fun job => part job.task) (Group.jobsOf rest))
        _ = whole s.task + part s.task + (total count (rest.map (verdictOf results)) +
              total (fun job => part job.task) (Group.jobsOf rest)) := by ac_rfl
        _ = whole s.task + part s.task + (total part (rest.map Slot.task) +
              total (fun job => whole job.task) (Group.jobsOf rest)) := by rw [ih]
        _ = part s.task + total part (rest.map Slot.task) +
              (whole s.task + total (fun job => whole job.task) (Group.jobsOf rest)) := by ac_rfl
    · rw [jobsOf_cons_of_other leads, others s List.mem_cons_self leads, plus_assoc, ih, plus_assoc]

end Sums

section Slots

variable {w w' : World σ τ} {results : Key → Verdict} {verdicts : List Verdict}

/-- The slot of a task: the store has something for it, or some task with its key is checked. -/
theorem slot_cases (fixed : e.store.AnswersBy answers w.store) {s : Slot} (member : s ∈ e.slotsFrom tasks w.store) :
    s.key = s.task.key ∧
      ((∃ v, stored answers s.task = some v ∧ s.origin = .served v) ∨
        stored answers s.task = none ∧ (s.origin = .checked ∨ s.origin = .shared) ∧
          ∃ job ∈ Group.jobsOf (e.slotsFrom tasks w.store), job.key = s.key) := by
  obtain ⟨i, inside, here⟩ := List.mem_iff_getElem.mp member
  have slot? : (e.slotsFrom tasks w.store)[i]? = some s := by rw [List.getElem?_eq_getElem inside, here]
  have task? := e.task_of_slot slot?
  have found? : (e.found tasks w.store)[i]? = some (stored answers s.task) := by
    rw [found_of_answersBy fixed, List.getElem?_map, task?]
    rfl
  have key : s.key = s.task.key := (key_of_mem_slotsOf member).1
  refine ⟨key, ?_⟩
  rcases slotsOf_cases (length_found e tasks w.store) task? with ⟨v, has, slot⟩ | ⟨first, slot⟩ | ⟨missed, leader, slot⟩
  · rw [has] at found?
    exact Or.inl ⟨v, (Option.some.inj found?).symm, by rw [Option.some.inj (slot?.symm.trans slot)]⟩
  · rw [first.2.1] at found?
    refine Or.inr ⟨(Option.some.inj found?).symm, Or.inl (by rw [Option.some.inj (slot?.symm.trans slot)]), s.task.job, ?_,
      key.symm⟩
    exact job_of_firstMissed (length_found e tasks w.store) first
  · rw [missed] at found?
    obtain ⟨j, t, _, same, first⟩ := leader
    refine Or.inr ⟨(Option.some.inj found?).symm, Or.inr (by rw [Option.some.inj (slot?.symm.trans slot)]), t.job, ?_,
      same.trans key.symm⟩
    exact job_of_firstMissed (length_found e tasks w.store) first

/-- The keys that are asked for are those that tasks have and the store does not. -/
theorem mem_askedKeys (fixed : e.store.AnswersBy answers w.store) (k : Key) :
    k ∈ (Group.jobsOf (e.slotsFrom tasks w.store)).map Job.key ↔ ∃ t ∈ tasks, t.key = k ∧ stored answers t = none := by
  constructor
  · intro member
    obtain ⟨job, known, rfl⟩ := List.mem_map.mp member
    obtain ⟨i, t, rfl, here, missed, _⟩ := firstMissed_of_job e known
    rw [found_of_answersBy fixed, List.getElem?_map, here] at missed
    exact ⟨t, List.mem_of_getElem? here, rfl, Option.some.inj missed⟩
  · rintro ⟨t, known, rfl, missed⟩
    obtain ⟨i, inside, rfl⟩ := List.mem_iff_getElem.mp known
    have here : tasks[i]? = some tasks[i] := List.getElem?_eq_getElem inside
    have none : (e.found tasks w.store)[i]? = some none := by
      rw [found_of_answersBy fixed, List.getElem?_map, here, Option.map_some, missed]
    obtain ⟨j, u, _, same, first⟩ := exists_firstMissed here none
    rw [← same]
    exact List.mem_map_of_mem (job_of_firstMissed (length_found e tasks w.store) first)

theorem askedKeys_perm {w₂ : World σ τ} (fixed : e.store.AnswersBy answers w.store)
    (fixed' : e.store.AnswersBy answers w₂.store) (perm : tasks.Perm tasks') :
    ((Group.jobsOf (e.slotsFrom tasks w.store)).map Job.key).Perm
      ((Group.jobsOf (e.slotsFrom tasks' w₂.store)).map Job.key) := by
  refine (List.perm_ext_iff_of_nodup (jobsOf_slotsOf_nodup [] tasks _).1 (jobsOf_slotsOf_nodup [] tasks' _).1).mpr fun k => ?_
  show k ∈ (Group.jobsOf (e.slotsFrom tasks w.store)).map Job.key ↔
    k ∈ (Group.jobsOf (e.slotsFrom tasks' w₂.store)).map Job.key
  rw [mem_askedKeys fixed, mem_askedKeys fixed']
  exact ⟨fun ⟨t, known, rest⟩ => ⟨t, perm.subset known, rest⟩, fun ⟨t, known, rest⟩ => ⟨t, perm.symm.subset known, rest⟩⟩

/-! ### The verdicts of a run -/

/-- A run that is not stopped and that hears the answers of a script. -/
structure Told (e : Engine σ τ) (answers : Key → Except StoreFault (Option Entry)) (script : Key → Nat → Response)
    (tasks : List Task) (w w' : World σ τ) (results : Key → Verdict) (verdicts : List Verdict) : Prop where
  ran : e.Ran (fun _ => False) tasks w w' results verdicts
  fixed : e.store.AnswersBy answers w.store
  hears : ∀ k, Hears (e.brings script k) (Call.forKey k (w'.callsSince w))

variable (told : e.Told answers script tasks w w' results verdicts)
include told

theorem Told.job {job : Job} (member : job ∈ Group.jobsOf (e.slotsFrom tasks w.store)) :
    (results job.key).untimed = e.hearing job.task (e.brings script job.key) :=
  (told.ran.finished job member).1.hearing (fun _ stop => stop) (told.hears job.key)

theorem Told.checked {s : Slot} (member : s ∈ e.slotsFrom tasks w.store) (origin : s.origin = .checked) :
    (verdictOf results s).untimed = e.hearing s.task (e.brings script s.task.key) := by
  have key : s.key = s.task.key := (key_of_mem_slotsOf member).1
  have job := told.job (mem_jobsOf.mpr ⟨s, member, origin, rfl⟩)
  rw [verdictOf, origin]
  rw [key] at job ⊢
  exact job

theorem Told.other {s : Slot} (member : s ∈ e.slotsFrom tasks w.store) (origin : s.origin ≠ .checked) :
    verdictOf results s = e.replyTo answers script s.task := by
  obtain ⟨key, ⟨v, has, served⟩ | ⟨missed, checked | shared, job, known, same⟩⟩ := slot_cases told.fixed member
  · rw [verdictOf, served, replyTo_of_some has]
  · exact absurd checked origin
  · have heard := told.job known
    rw [same] at heard
    rw [verdictOf, shared, replyTo_of_none missed]
    dsimp only
    rw [← Verdict.sharedWith_untimed, heard, e.hearing_sharedWith job.task s.task, key]

theorem Told.saysLike {s : Slot} (member : s ∈ e.slotsFrom tasks w.store) :
    SaysLike (verdictOf results s) (e.replyTo answers script s.task) := by
  by_cases checked : s.origin = .checked
  · have heard := told.checked member checked
    obtain ⟨_, ⟨v, _, served⟩ | ⟨missed, _⟩⟩ := slot_cases told.fixed member
    · exact absurd (served.symm.trans checked) (by simp)
    · obtain ⟨findings, failures⟩ := e.saysLike_sharedWith s.task (e.brings script s.task.key)
      rw [replyTo_of_none missed]
      exact ⟨(congrArg Verdict.findings heard).trans findings.symm, (congrArg Verdict.failures heard).trans failures.symm⟩
  · rw [told.other member checked]
    exact ⟨rfl, rfl⟩

/-- Every task is told the same whether it is checked or not. -/
theorem Told.said :
    verdicts.map Verdict.findings = (tasks.map (e.replyTo answers script)).map Verdict.findings ∧
      verdicts.map Verdict.failures = (tasks.map (e.replyTo answers script)).map Verdict.failures := by
  have listed : (e.slotsFrom tasks w.store).map Slot.task = tasks := slotsOf_tasks [] (length_found e tasks w.store)
  have replies : tasks.map (e.replyTo answers script) =
      (e.slotsFrom tasks w.store).map fun s => e.replyTo answers script s.task :=
    (congrArg (List.map (e.replyTo answers script)) listed.symm).trans List.map_map
  rw [told.ran.verdicts, replies, List.map_map, List.map_map, List.map_map, List.map_map]
  exact ⟨List.map_congr_left fun s member => (told.saysLike member).1,
    List.map_congr_left fun s member => (told.saysLike member).2⟩

theorem Told.counts {M : Type} [Add M] [OfNat M 0] [Addable M] {count : Verdict → M} (weighs : Verdict.Weighs count) :
    total count verdicts +
        total (fun job => count (e.replyTo answers script job.task)) (Group.jobsOf (e.slotsFrom tasks w.store)) =
      total (fun t => count (e.replyTo answers script t)) tasks +
        total (fun job => count (e.hearing job.task (e.brings script job.task.key)))
          (Group.jobsOf (e.slotsFrom tasks w.store)) := by
  have listed : (e.slotsFrom tasks w.store).map Slot.task = tasks := slotsOf_tasks [] (length_found e tasks w.store)
  have others : ∀ s ∈ e.slotsFrom tasks w.store, s.origin ≠ .checked →
      count (verdictOf results s) = count (e.replyTo answers script s.task) :=
    fun s member other => congrArg count (told.other member other)
  have checked : ∀ s ∈ e.slotsFrom tasks w.store, s.origin = .checked →
      count (verdictOf results s) = count (e.hearing s.task (e.brings script s.task.key)) := by
    intro s member origin
    have same := congrArg Verdict.cost (told.checked member origin)
    exact weighs.congr same
  have both := total_slots (fun t => count (e.replyTo answers script t))
    (fun t => count (e.hearing t (e.brings script t.key))) others checked
  rw [listed] at both
  rw [told.ran.verdicts]
  exact both

end Slots

/-- Runs of the same tasks in different orders cost the same, their times apart. -/
theorem Told.cost_eq {w₁ w₁' w₂ w₂' : World σ τ} {results₁ results₂ : Key → Verdict} {verdicts₁ verdicts₂ : List Verdict}
    (first : e.Told answers script tasks w₁ w₁' results₁ verdicts₁)
    (second : e.Told answers script tasks' w₂ w₂' results₂ verdicts₂) (perm : tasks.Perm tasks') :
    (Verdict.fold verdicts₁).cost = (Verdict.fold verdicts₂).cost := by
  have keyed : ∀ {tasks : List Task} {w : World σ τ}, ∀ job ∈ Group.jobsOf (e.slotsFrom tasks w.store),
      job.key = job.task.key := by
    intro tasks w job member
    obtain ⟨t, _, rfl⟩ := mem_jobsOf_slotsOf member
    rfl
  have counts : ∀ {M : Type} [Add M] [OfNat M 0] [Addable M] (count : Verdict → M), Verdict.Weighs count →
      (∀ a b, count (a.merge b) = count a + count b) → count {} = 0 →
      count (Verdict.fold verdicts₁) = count (Verdict.fold verdicts₂) := by
    intro M _ _ _ count weighs adds none
    have asked := askedKeys_perm first.fixed second.fixed perm
    have parts : total (fun job => count (e.replyTo answers script job.task)) (Group.jobsOf (e.slotsFrom tasks w₁.store)) =
        total (fun job => count (e.replyTo answers script job.task)) (Group.jobsOf (e.slotsFrom tasks' w₂.store)) := by
      refine total_of_labels asked fun job known job' known' same => weighs.congr (cost_replyTo ?_)
      rw [← keyed job known, ← keyed job' known', same]
    have wholes : total (fun job => count (e.hearing job.task (e.brings script job.task.key)))
          (Group.jobsOf (e.slotsFrom tasks w₁.store)) =
        total (fun job => count (e.hearing job.task (e.brings script job.task.key)))
          (Group.jobsOf (e.slotsFrom tasks' w₂.store)) := by
      refine total_of_labels asked fun job known job' known' same => ?_
      rw [← keyed job known, ← keyed job' known', same]
      exact weighs.congr (e.cost_hearing job.task job'.task _)
    -- Both runs have the same replies in all, and replace those to one task of each key by what its check costs.
    have one := first.counts weighs
    have other := second.counts weighs
    have told := total_perm (fun t => count (e.replyTo answers script t)) perm
    rw [Verdict.count_fold _ count adds none, Verdict.count_fold _ count adds none]
    rw [parts, wholes, told, ← other] at one
    exact Addable.cancel one
  have checks := counts Verdict.checks (fun _ => rfl) (fun _ _ => rfl) rfl
  have hits := counts Verdict.hits (fun _ => rfl) (fun _ _ => rfl) rfl
  have misses := counts Verdict.misses (fun _ => rfl) (fun _ _ => rfl) rfl
  have calls := counts Verdict.calls (fun _ => rfl) (fun _ _ => rfl) rfl
  have retries := counts Verdict.retries (fun _ => rfl) (fun _ _ => rfl) rfl
  have prompts := counts Verdict.promptTokens (fun _ => rfl) (fun _ _ => rfl) rfl
  have completions := counts Verdict.completionTokens (fun _ => rfl) (fun _ _ => rfl) rfl
  rw [Verdict.cost, Verdict.cost, checks, hits, misses, calls, retries, prompts, completions]

end Engine

end PolicyLint
