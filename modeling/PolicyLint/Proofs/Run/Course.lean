import PolicyLint.Proofs.Run.Upkeep
import PolicyLint.Run.Batch

/-!
# The course of a run

What starts and steps keep holds when a run has come to its end, where every group is closed.
`runGroups_keeps` says so of groups that open whenever there is room for them, and `run_keeps` of a single
group, which opens at once.
-/

namespace PolicyLint

namespace Engine

variable {σ τ : Type}

def verdictOf (results : Key → Verdict) (s : Slot) : Verdict :=
  match s.origin with
  | .served v => v.servedTo s.task
  | .checked => results s.key
  | .shared => (results s.key).sharedWith s.task

def answersOf (groups : List (List Task)) (verdicts : List (List Verdict)) : List (Task × Verdict) :=
  (groups.zip verdicts).flatMap fun g => g.1.zip g.2

theorem map_answersOf {groups : List (List Task)} {verdicts : List (List Verdict)}
    (long : groups.length = verdicts.length)
    (each : ∀ (i : Nat) (tasks : List Task), groups[i]? = some tasks →
      ∃ vs, verdicts[i]? = some vs ∧ vs.length = tasks.length) :
    (answersOf groups verdicts).map Prod.fst = groups.flatten ∧
      (answersOf groups verdicts).map Prod.snd = verdicts.flatten := by
  induction groups generalizing verdicts with
  | nil =>
    rw [List.length_eq_zero_iff.mp long.symm]
    exact ⟨rfl, rfl⟩
  | cons tasks groups ih =>
    obtain ⟨vs, verdicts, rfl⟩ := List.exists_cons_of_length_eq_add_one long.symm
    obtain ⟨vs', here, same⟩ := each 0 tasks rfl
    obtain rfl := Option.some.inj here
    obtain ⟨first, second⟩ := ih (Nat.succ.inj long) fun i tasks there => each (i + 1) tasks there
    unfold answersOf at first second ⊢
    rw [List.zip_cons_cons, List.flatMap_cons, List.map_append, List.map_append, first, second, List.flatten_cons,
      List.flatten_cons, List.map_fst_zip (Nat.le_of_eq same.symm), List.map_snd_zip (Nat.le_of_eq same)]
    exact ⟨rfl, rfl⟩

theorem verdicts_eq (g : Group) : g.verdicts = g.slots.map (verdictOf g.finishedAt) := rfl

theorem mem_jobsOf_slotsOf {tasks : List Task} {found : List (Option Verdict)} {job : Job}
    (member : job ∈ Group.jobsOf (slotsOf [] tasks found)) : ∃ t ∈ tasks, job = t.job := by
  obtain ⟨s, here, _, rfl⟩ := mem_jobsOf.mp member
  obtain ⟨same, known⟩ := key_of_mem_slotsOf here
  exact ⟨s.task, known, by rw [same]⟩

theorem job_eq_of_key_eq {jobs : List Job} {a b : Job} (distinct : (jobs.map Job.key).Nodup) (first : a ∈ jobs)
    (second : b ∈ jobs) (same : a.key = b.key) : a = b := by
  induction jobs with
  | nil => exact absurd first (by simp)
  | cons job rest ih =>
    rw [List.map_cons, List.nodup_cons] at distinct
    rcases List.mem_cons.mp first with here | later <;> rcases List.mem_cons.mp second with here' | later'
    · rw [here, here']
    · subst here
      exact absurd (List.mem_map.mpr ⟨b, later', same.symm⟩) distinct.1
    · subst here'
      exact absurd (List.mem_map.mpr ⟨a, later, same⟩) distinct.1
    · exact ih distinct.2 later later'

section Course

variable {e : Engine σ τ} {apart : Key → Key → Prop} {I : Nat → World σ τ → Prop}
  {P : Job → Stage → World σ τ → Prop} {Q : List Task → List (Option Verdict) → Prop}

/-! ### Groups that open and close -/

/-- Tasks whose keys no job of some slots has are waiting for good. -/
def Idle (P : Job → Stage → World σ τ → Prop) (tasks : List Task) (slots : List Slot) (w : World σ τ) : Prop :=
  ∀ t ∈ tasks, (∀ job ∈ Group.jobsOf slots, job.key ≠ t.key) → P t.job .waiting w

/-- An open group of tasks. What the store has for them has the property `Q`. -/
def Opened (P : Job → Stage → World σ τ → Prop) (Q : List Task → List (Option Verdict) → Prop)
    (time : Nat) (tasks : List Task) (g : Group) (w : World σ τ) : Prop :=
  ∃ found, found.length = tasks.length ∧ Q tasks found ∧ g.slots = slotsOf [] tasks found ∧ Holds P time g w ∧
    Idle P tasks g.slots w ∧ 0 < g.bound ∧ (g.queue ≠ [] → g.bound ≤ g.running.length)

/-- The verdicts of a closed group of tasks. -/
def Settled (P : Job → Stage → World σ τ → Prop) (Q : List Task → List (Option Verdict) → Prop)
    (tasks : List Task) (verdicts : List Verdict) (w : World σ τ) : Prop :=
  ∃ found results, found.length = tasks.length ∧ Q tasks found ∧
    verdicts = (slotsOf [] tasks found).map (verdictOf results) ∧
    (∀ job ∈ Group.jobsOf (slotsOf [] tasks found), P job (.reached (.inr (results job.key))) w) ∧
    Idle P tasks (slotsOf [] tasks found) w

def Stays (P : Job → Stage → World σ τ → Prop) (tasks : List Task) (w w' : World σ τ) : Prop :=
  ∀ t ∈ tasks, ∀ p, P t.job p w → P t.job p w'

theorem Opened.mono {time : Nat} {tasks : List Task} {g : Group} {w w' : World σ τ}
    (opened : Opened P Q time tasks g w) (kept : Stays P tasks w w') : Opened P Q time tasks g w' := by
  obtain ⟨found, long, has, slots, holds, idle, room, full⟩ := opened
  refine ⟨found, long, has, slots, holds.mono ?_, fun t known none => kept t known _ (idle t known none), room, full⟩
  intro job member p before
  rw [slots] at member
  obtain ⟨t, known, rfl⟩ := mem_jobsOf_slotsOf member
  exact kept t known p before

theorem Settled.mono {tasks : List Task} {verdicts : List Verdict} {w w' : World σ τ}
    (settled : Settled P Q tasks verdicts w) (kept : Stays P tasks w w') : Settled P Q tasks verdicts w' := by
  obtain ⟨found, results, long, has, same, ended, idle⟩ := settled
  refine ⟨found, results, long, has, same, ?_, fun t known none => kept t known _ (idle t known none)⟩
  intro job member
  obtain ⟨t, known, rfl⟩ := mem_jobsOf_slotsOf member
  exact kept t known _ (ended _ member)

theorem Opened.settled {time : Nat} {tasks : List Task} {g : Group} {w : World σ τ}
    (opened : Opened P Q time tasks g w) (done : g.isDone = true) : Settled P Q tasks g.verdicts w := by
  obtain ⟨found, long, has, slots, holds, idle, _, _⟩ := opened
  simp only [Group.isDone, Bool.and_eq_true, List.isEmpty_iff] at done
  have keys := holds.keys
  rw [done.1, done.2, List.map_nil, List.map_nil, List.nil_append, List.nil_append] at keys
  refine ⟨found, g.finishedAt, long, has, by rw [verdicts_eq, slots], ?_, by rw [← slots]; exact idle⟩
  intro job member
  rw [← slots] at member
  have distinct : ((Group.jobsOf g.slots).map Job.key).Nodup := by
    rw [slots]
    exact (jobsOf_slotsOf_nodup [] tasks found).1
  cases looked : g.finished.lookup job.key with
  | none =>
    have present : job.key ∈ g.finished.map Prod.fst := keys.mem_iff.mpr (List.mem_map_of_mem member)
    obtain ⟨p, here, same⟩ := List.mem_map.mp present
    have absent := List.lookup_eq_none_iff.mp looked p here
    simp [same] at absent
  | some v =>
    obtain ⟨before, after, split, _⟩ := List.lookup_eq_some_iff.mp looked
    have here : (job.key, v) ∈ g.finished := by rw [split]; simp
    obtain ⟨job', known, same, ended⟩ := holds.finished _ here
    obtain rfl := job_eq_of_key_eq distinct known member same
    rw [Group.finishedAt, looked]
    exact ended

theorem apart_of_tasks {tasks : List Task} {found : List (Option Verdict)} {k : Key} (others : ∀ t ∈ tasks, apart t.key k) :
    ∀ job ∈ Group.jobsOf (slotsOf [] tasks found), apart job.key k := by
  intro job member
  obtain ⟨t, known, rfl⟩ := mem_jobsOf_slotsOf member
  exact others t known

theorem distinct_of_slots (upkeep : e.Upkeep apart I P) {tasks : List Task} {found : List (Option Verdict)} :
    ((Group.jobsOf (slotsOf [] tasks found)).map Job.key).Pairwise apart :=
  ((jobsOf_slotsOf_nodup [] tasks found).1).imp fun different => upkeep.ofNe different

theorem openGroup_keeps (upkeep : e.Upkeep apart I P) (time : Nat) {bound : Nat} {tasks : List Task} {w : World σ τ}
    (room : 0 < bound) (inv : I time (e.assign [] tasks w).2) (has : Q tasks (e.found tasks w.store))
    (fresh : ∀ job ∈ Group.jobsOf (e.assign [] tasks w).1, P job .queued (e.assign [] tasks w).2)
    (waits : ∀ t ∈ tasks, P t.job .waiting (e.assign [] tasks w).2) :
    I time (e.openGroup time bound tasks w).2 ∧
      Opened P Q time tasks (e.openGroup time bound tasks w).1 (e.openGroup time bound tasks w).2 ∧
      ∀ job p, (∀ t ∈ tasks, apart t.key job.key) → P job p (e.assign [] tasks w).2 →
        P job p (e.openGroup time bound tasks w).2 := by
  have slots := assign_slots e [] tasks w
  have holds : Holds P time { slots := (e.assign [] tasks w).1, bound, queue := Group.jobsOf (e.assign [] tasks w).1 }
      (e.assign [] tasks w).2 := by
    refine ⟨fun job member => ⟨member, fresh job member⟩, by simp, by simp, by simp⟩
  have distinct : ((Group.jobsOf (e.assign [] tasks w).1).map Job.key).Pairwise apart := by
    rw [slots]
    exact distinct_of_slots upkeep
  obtain ⟨invEnd, holdsEnd, frame⟩ := fill_keeps upkeep
    { slots := (e.assign [] tasks w).1, bound, queue := [] } (Group.jobsOf (e.assign [] tasks w).1) inv holds distinct
  obtain ⟨sameSlots, sameBound, full⟩ := fill_shape e time
    { slots := (e.assign [] tasks w).1, bound, queue := [] } (Group.jobsOf (e.assign [] tasks w).1)
    (e.assign [] tasks w).2
  unfold openGroup
  refine ⟨invEnd, ⟨_, length_found e tasks w.store, has, sameSlots.trans slots, holdsEnd, ?_, ?_, ?_⟩, ?_⟩
  · intro t known none
    rw [sameSlots] at none
    exact frame _ _ (fun job' member => upkeep.ofNe (none job' member)) (waits t known)
  · rw [sameBound]
    exact room
  · rw [sameBound]
    exact full
  · intro job p others before
    refine frame job p ?_ before
    rw [slots]
    exact apart_of_tasks others

theorem Opened.tick (upkeep : e.Upkeep apart I P) {time earlier : Nat} {tasks : List Task} {g : Group}
    {w : World σ τ} (inv : I time w) (opened : Opened P Q earlier tasks g w)
    (due : ∀ c ∈ g.running, time ≤ c.due) :
    I time (e.tick time g w).2 ∧ Opened P Q time tasks (e.tick time g w).1 (e.tick time g w).2 ∧
      ∀ job p, (∀ t ∈ tasks, apart t.key job.key) → P job p w → P job p (e.tick time g w).2 := by
  obtain ⟨found, long, has, slots, holds, idle, room, _⟩ := opened
  have distinct : ((Group.jobsOf g.slots).map Job.key).Pairwise apart := by
    rw [slots]
    exact distinct_of_slots upkeep
  obtain ⟨invEnd, holdsEnd, frame⟩ := tick_keeps upkeep inv holds due distinct
  obtain ⟨sameSlots, sameBound, full⟩ := tick_shape e time g w
  refine ⟨invEnd, ⟨found, long, has, sameSlots.trans slots, holdsEnd, ?_, ?_, ?_⟩, ?_⟩
  · intro t known none
    rw [sameSlots] at none
    exact frame _ _ (fun job' member => upkeep.ofNe (none job' member)) (idle t known none)
  · rw [sameBound]
    exact room
  · rw [sameBound]
    exact full
  · intro job p others before
    refine frame job p ?_ before
    rw [slots]
    exact apart_of_tasks others

/-! ### Batches -/

/-- Tasks of different groups have keys apart from each other. -/
def Separate (apart : Key → Key → Prop) (groups : List (List Task)) : Prop :=
  groups.Pairwise fun a b => ∀ t ∈ a, ∀ t' ∈ b, apart t.key t'.key

theorem apart_of_separate {groups : List (List Task)} (separate : Separate apart groups) (symm : ∀ {k k' : Key}, apart k k' → apart k' k)
    {i j : Nat} {a b : List Task} (first : groups[i]? = some a) (second : groups[j]? = some b)
    (different : i ≠ j) {t t' : Task} (member : t ∈ a) (member' : t' ∈ b) : apart t.key t'.key := by
  obtain ⟨inside, rfl⟩ := List.getElem?_eq_some_iff.mp first
  obtain ⟨inside', rfl⟩ := List.getElem?_eq_some_iff.mp second
  rcases Nat.lt_or_gt_of_ne different with less | greater
  · exact List.pairwise_iff_getElem.mp separate i j inside inside' less t member t' member'
  · exact symm (List.pairwise_iff_getElem.mp separate j i inside' inside greater t' member' t member)

/-- A batch on its way through groups: each of them waits, is open or is closed. Of a group that waits no
job has started. -/
structure Underway (I : Nat → World σ τ → Prop) (P : Job → Stage → World σ τ → Prop)
    (Q : List Task → List (Option Verdict) → Prop) (groups : List (List Task)) (b : Batch)
    (queue : List (Nat × List Task)) (w : World σ τ) : Prop where
  inv : I b.clock w
  waiting : ∀ x ∈ queue, groups[x.1]? = some x.2 ∧ ∀ t ∈ x.2, P t.job .waiting w
  opened : ∀ x ∈ b.opened, ∃ tasks, groups[x.1]? = some tasks ∧ Opened P Q b.clock tasks x.2 w ∧ x.2.isDone = false
  closed : ∀ x ∈ b.closed, ∃ tasks, groups[x.1]? = some tasks ∧ Settled P Q tasks x.2 w
  places : (queue.map Prod.fst ++ (b.opened.map Prod.fst ++ b.closed.map Prod.fst)).Perm
    (List.range groups.length)
  bound : 0 < b.bound

/-- The lookups of a group of tasks disturb nothing, what they find has the property `Q`, and the jobs that
they leave over are queued. -/
def Opens (e : Engine σ τ) (I : Nat → World σ τ → Prop) (P : Job → Stage → World σ τ → Prop)
    (Q : List Task → List (Option Verdict) → Prop) (tasks : List Task) : Prop :=
  ∀ {time : Nat} {w : World σ τ}, I time w → (∀ t ∈ tasks, P t.job .waiting w) →
    I time (e.assign [] tasks w).2 ∧ Q tasks (e.found tasks w.store) ∧
      (∀ job ∈ Group.jobsOf (e.assign [] tasks w).1, P job .queued (e.assign [] tasks w).2) ∧
      ∀ job p, P job p w → P job p (e.assign [] tasks w).2

def Packed (b : Batch) : Prop := b.waiting ≠ [] → b.width ≤ b.opened.length

variable {groups : List (List Task)}

def StaysAt (P : Job → Stage → World σ τ → Prop) (groups : List (List Task)) (places : List Nat) (w w' : World σ τ) :
    Prop :=
  ∀ i ∈ places, ∀ tasks, groups[i]? = some tasks → Stays P tasks w w'

section Places

variable {w w' : World σ τ}

theorem StaysAt.of_ne {i : Nat} {places : List Nat}
    (quiet : ∀ j tasks, groups[j]? = some tasks → j ≠ i → Stays P tasks w w') (outside : i ∉ places) :
    StaysAt P groups places w w' := by
  intro j member tasks here
  apply quiet j tasks here
  rintro rfl
  exact outside member

theorem waiting_mono {queue : List (Nat × List Task)}
    (waiting : ∀ x ∈ queue, groups[x.1]? = some x.2 ∧ ∀ t ∈ x.2, P t.job .waiting w)
    (stays : StaysAt P groups (queue.map Prod.fst) w w') :
    ∀ x ∈ queue, groups[x.1]? = some x.2 ∧ ∀ t ∈ x.2, P t.job .waiting w' := by
  intro x member
  obtain ⟨here, before⟩ := waiting x member
  exact ⟨here, fun t known => stays x.1 (List.mem_map_of_mem member) x.2 here t known .waiting (before t known)⟩

theorem opened_mono {time : Nat} {opened : List (Nat × Group)}
    (holds : ∀ x ∈ opened, ∃ tasks, groups[x.1]? = some tasks ∧ Opened P Q time tasks x.2 w)
    (stays : StaysAt P groups (opened.map Prod.fst) w w') :
    ∀ x ∈ opened, ∃ tasks, groups[x.1]? = some tasks ∧ Opened P Q time tasks x.2 w' := by
  intro x member
  obtain ⟨tasks, here, before⟩ := holds x member
  exact ⟨tasks, here, before.mono (stays x.1 (List.mem_map_of_mem member) tasks here)⟩

theorem closed_mono {closed : List (Nat × List Verdict)}
    (settled : ∀ x ∈ closed, ∃ tasks, groups[x.1]? = some tasks ∧ Settled P Q tasks x.2 w)
    (stays : StaysAt P groups (closed.map Prod.fst) w w') :
    ∀ x ∈ closed, ∃ tasks, groups[x.1]? = some tasks ∧ Settled P Q tasks x.2 w' := by
  intro x member
  obtain ⟨tasks, here, before⟩ := settled x member
  exact ⟨tasks, here, before.mono (stays x.1 (List.mem_map_of_mem member) tasks here)⟩

end Places

theorem openWaiting_keeps (upkeep : e.Upkeep apart I P) (separate : Separate apart groups) {b : Batch}
    {waiting : List (Nat × List Task)} {w : World σ τ} (underway : Underway I P Q groups b waiting w)
    (opens : ∀ x ∈ waiting, Opens e I P Q x.2) :
    Underway I P Q groups (e.openWaiting b waiting w).1 (e.openWaiting b waiting w).1.waiting
        (e.openWaiting b waiting w).2 ∧
      Packed (e.openWaiting b waiting w).1 ∧ (e.openWaiting b waiting w).1.width = b.width ∧
      (e.openWaiting b waiting w).1.clock = b.clock ∧
      ∀ x ∈ (e.openWaiting b waiting w).1.waiting, x ∈ waiting := by
  induction waiting generalizing b w with
  | nil =>
    exact ⟨⟨underway.inv, underway.waiting, underway.opened, underway.closed, underway.places, underway.bound⟩,
      fun some => absurd rfl some, rfl, rfl, fun _ member => member⟩
  | cons next rest ih =>
    obtain ⟨i, tasks⟩ := next
    by_cases room : b.opened.length < b.width
    · obtain ⟨here, waits⟩ := underway.waiting (i, tasks) List.mem_cons_self
      obtain ⟨inv, has, fresh, calm⟩ := opens (i, tasks) List.mem_cons_self underway.inv waits
      obtain ⟨inv', opened, frame⟩ := openGroup_keeps upkeep b.clock underway.bound inv has fresh
        fun t known => calm _ _ (waits t known)
      have places := underway.places
      rw [List.map_cons, List.cons_append] at places
      have distinct := places.nodup_iff.mpr List.nodup_range
      rw [List.nodup_cons] at distinct
      -- Only the tasks of the group that opens are disturbed, since groups are separate.
      have quiet : ∀ j other, groups[j]? = some other → j ≠ i →
          Stays P other w (e.openGroup b.clock b.bound tasks w).2 := by
        intro j other there different t member p before
        refine frame _ p ?_ (calm _ p before)
        intro t' member'
        exact apart_of_separate separate upkeep.symm here there (Ne.symm different) member' member
      rw [List.mem_append, List.mem_append, not_or, not_or] at distinct
      obtain ⟨⟨notWaiting, notOpened, notClosed⟩, _⟩ := distinct
      have openedStill : ∀ x ∈ b.opened, ∃ tasks', groups[x.1]? = some tasks' ∧
          Opened P Q b.clock tasks' x.2 (e.openGroup b.clock b.bound tasks w).2 ∧ x.2.isDone = false := by
        intro x member
        obtain ⟨tasks', there, before, busy⟩ := underway.opened x member
        exact ⟨tasks', there, before.mono (StaysAt.of_ne quiet notOpened x.1 (List.mem_map_of_mem member) tasks' there), busy⟩
      have closedStill := closed_mono underway.closed (StaysAt.of_ne quiet notClosed)
      have waitingStill := waiting_mono (fun x member => underway.waiting x (List.mem_cons_of_mem _ member))
        (StaysAt.of_ne quiet notWaiting)
      rcases group : e.openGroup b.clock b.bound tasks w with ⟨g, w'⟩
      rw [group] at inv' opened waitingStill openedStill closedStill
      by_cases done : g.isDone
      · simp only [openWaiting, if_pos room, group, if_pos done]
        have underway' : Underway I P Q groups { b with closed := (i, g.verdicts) :: b.closed } rest w' := by
          refine ⟨inv', waitingStill, openedStill, ?_, ?_, underway.bound⟩
          · intro x member
            rcases List.mem_cons.mp member with rfl | member
            · exact ⟨tasks, here, opened.settled done⟩
            · exact closedStill x member
          · refine List.Perm.trans ?_ places
            rw [List.map_cons]
            exact ((List.perm_middle).append_left _).trans List.perm_middle
        obtain ⟨end', packed, width, clock, fewer⟩ :=
          ih underway' fun x member => opens x (List.mem_cons_of_mem _ member)
        exact ⟨end', packed, width, clock, fun x member => List.mem_cons_of_mem _ (fewer x member)⟩
      · simp only [openWaiting, if_pos room, group, if_neg done]
        have underway' : Underway I P Q groups { b with opened := b.opened ++ [(i, g)] } rest w' := by
          refine ⟨inv', waitingStill, ?_, closedStill, ?_, underway.bound⟩
          · intro x member
            rcases List.mem_append.mp member with member | member
            · exact openedStill x member
            · obtain rfl := List.mem_singleton.mp member
              exact ⟨tasks, here, opened, by simpa using done⟩
          · refine List.Perm.trans ?_ places
            rw [List.map_append, List.map_singleton, List.append_assoc, List.singleton_append]
            exact ((List.perm_middle).append_left _).trans List.perm_middle
        obtain ⟨end', packed, width, clock, fewer⟩ :=
          ih underway' fun x member => opens x (List.mem_cons_of_mem _ member)
        exact ⟨end', packed, width, clock, fun x member => List.mem_cons_of_mem _ (fewer x member)⟩
    · have full : e.openWaiting b ((i, tasks) :: rest) w = ({ b with waiting := (i, tasks) :: rest }, w) := by
        rw [openWaiting, if_neg room]
      rw [full]
      exact ⟨⟨underway.inv, underway.waiting, underway.opened, underway.closed, underway.places, underway.bound⟩,
        fun _ => Nat.le_of_not_lt room, rfl, rfl, fun _ member => member⟩

theorem tickAll_cons (e : Engine σ τ) (time i : Nat) (g : Group) (rest : List (Nat × Group)) (w : World σ τ) :
    e.tickAll time ((i, g) :: rest) w =
      if (e.tick time g w).1.isDone then
        ((e.tickAll time rest (e.tick time g w).2).1,
          (i, (e.tick time g w).1.verdicts) :: (e.tickAll time rest (e.tick time g w).2).2.1,
          (e.tickAll time rest (e.tick time g w).2).2.2)
      else
        ((i, (e.tick time g w).1) :: (e.tickAll time rest (e.tick time g w).2).1,
          (e.tickAll time rest (e.tick time g w).2).2.1, (e.tickAll time rest (e.tick time g w).2).2.2) := rfl

theorem tickAll_keeps (upkeep : e.Upkeep apart I P) (separate : Separate apart groups) {time earlier : Nat}
    {opened : List (Nat × Group)} {w : World σ τ} (inv : I time w)
    (holds : ∀ x ∈ opened, ∃ tasks, groups[x.1]? = some tasks ∧ Opened P Q earlier tasks x.2 w)
    (due : ∀ x ∈ opened, ∀ c ∈ x.2.running, time ≤ c.due) (distinct : (opened.map Prod.fst).Nodup) :
    I time (e.tickAll time opened w).2.2 ∧
      (∀ x ∈ (e.tickAll time opened w).1, ∃ tasks, groups[x.1]? = some tasks ∧
        Opened P Q time tasks x.2 (e.tickAll time opened w).2.2 ∧ x.2.isDone = false) ∧
      (∀ x ∈ (e.tickAll time opened w).2.1, ∃ tasks, groups[x.1]? = some tasks ∧
        Settled P Q tasks x.2 (e.tickAll time opened w).2.2) ∧
      ((e.tickAll time opened w).1.map Prod.fst ++ (e.tickAll time opened w).2.1.map Prod.fst).Perm
        (opened.map Prod.fst) ∧
      ∀ i tasks, groups[i]? = some tasks → i ∉ opened.map Prod.fst →
        Stays P tasks w (e.tickAll time opened w).2.2 := by
  induction opened generalizing w with
  | nil => exact ⟨inv, by simp [tickAll], by simp [tickAll], by simp [tickAll], fun _ _ _ _ _ _ _ has => has⟩
  | cons next rest ih =>
    obtain ⟨i, g⟩ := next
    rw [List.map_cons, List.nodup_cons] at distinct
    obtain ⟨tasks, here, open'⟩ := holds (i, g) List.mem_cons_self
    obtain ⟨inv', ticked, frame⟩ := open'.tick upkeep inv (due (i, g) List.mem_cons_self)
    have quiet : ∀ j other, groups[j]? = some other → j ≠ i → Stays P other w (e.tick time g w).2 := by
      intro j other there different t member p before
      exact frame _ p
        (fun t' member' => apart_of_separate separate upkeep.symm here there (Ne.symm different) member' member)
        before
    have holds' := opened_mono (fun x member => holds x (List.mem_cons_of_mem _ member))
      (StaysAt.of_ne quiet distinct.1)
    obtain ⟨invEnd, stay, close, places, frameRest⟩ := ih inv' holds'
      (fun x member => due x (List.mem_cons_of_mem _ member)) distinct.2
    -- The groups behind this one leave its tasks alone, so what its tick came to still holds at the end.
    have after := ticked.mono (frameRest i tasks here distinct.1)
    have frameAll : ∀ j other, groups[j]? = some other → j ∉ ((i, g) :: rest).map Prod.fst →
        Stays P other w (e.tickAll time rest (e.tick time g w).2).2.2 := by
      intro j other there outside t member p before
      rw [List.map_cons, List.mem_cons, not_or] at outside
      exact frameRest j other there outside.2 t member p (quiet j other there outside.1 t member p before)
    by_cases done : (e.tick time g w).1.isDone
    · rw [tickAll_cons, if_pos done]
      refine ⟨invEnd, stay, ?_, ?_, frameAll⟩
      · intro x member
        rcases List.mem_cons.mp member with rfl | member
        · exact ⟨tasks, here, after.settled done⟩
        · exact close x member
      · rw [List.map_cons, List.map_cons]
        exact List.perm_middle.trans (places.cons _)
    · rw [tickAll_cons, if_neg done]
      refine ⟨invEnd, ?_, close, ?_, frameAll⟩
      · intro x member
        rcases List.mem_cons.mp member with rfl | member
        · exact ⟨tasks, here, after, by simpa using done⟩
        · exact stay x member
      · rw [List.map_cons, List.map_cons, List.cons_append]
        exact places.cons _

theorem nextDue_le {b : Batch} {time : Nat} (next : b.nextDue? = some time) :
    ∀ x ∈ b.opened, ∀ c ∈ x.2.running, time ≤ c.due := by
  intro x member c running
  have least := (List.min?_eq_some_iff.mp next).2
  exact least c.due (List.mem_flatMap.mpr ⟨x, member, List.mem_map_of_mem running⟩)

theorem jump_keeps (upkeep : e.Upkeep apart I P) (separate : Separate apart groups) {b : Batch} {w : World σ τ}
    {time : Nat} (underway : Underway I P Q groups b b.waiting w) (next : b.nextDue? = some time)
    (opens : ∀ x ∈ b.waiting, Opens e I P Q x.2) :
    Underway I P Q groups (e.jump time b w).1 (e.jump time b w).1.waiting (e.jump time b w).2 ∧
      Packed (e.jump time b w).1 ∧ (e.jump time b w).1.width = b.width ∧
      ∀ x ∈ (e.jump time b w).1.waiting, x ∈ b.waiting := by
  have later : b.clock ≤ time := by
    obtain ⟨x, member, c, running, early⟩ := Batch.exists_due_of_nextDue? next
    obtain ⟨tasks, _, ⟨_, _, _, _, holds, _⟩, _⟩ := underway.opened x member
    exact Nat.le_trans (holds.running c running).2.1 early
  have places := underway.places
  have all := places.nodup_iff.mpr List.nodup_range
  obtain ⟨_, others, apartWaiting⟩ := List.nodup_append.mp all
  obtain ⟨distinct, _, apartClosed⟩ := List.nodup_append.mp others
  have holds : ∀ x ∈ b.opened, ∃ tasks, groups[x.1]? = some tasks ∧ Opened P Q b.clock tasks x.2 w := by
    intro x member
    obtain ⟨tasks, here, before, _⟩ := underway.opened x member
    exact ⟨tasks, here, before⟩
  obtain ⟨inv, stay, close, kept, frame⟩ := tickAll_keeps upkeep separate (upkeep.later underway.inv later) holds
    (nextDue_le next) distinct
  have underway' : Underway I P Q groups
      { b with
        clock := time
        opened := (e.tickAll time b.opened w).1
        closed := (e.tickAll time b.opened w).2.1 ++ b.closed } b.waiting (e.tickAll time b.opened w).2.2 := by
    have waitingStay : StaysAt P groups (b.waiting.map Prod.fst) w (e.tickAll time b.opened w).2.2 :=
      fun i member tasks here => frame i tasks here fun there =>
        apartWaiting i member i (List.mem_append_left _ there) rfl
    have closedStay : StaysAt P groups (b.closed.map Prod.fst) w (e.tickAll time b.opened w).2.2 :=
      fun i member tasks here => frame i tasks here fun there => apartClosed i there i member rfl
    refine ⟨inv, waiting_mono underway.waiting waitingStay, stay, ?_, ?_, underway.bound⟩
    · intro x member
      rcases List.mem_append.mp member with member | member
      · exact close x member
      · exact closed_mono underway.closed closedStay x member
    · refine List.Perm.trans (List.Perm.append_left _ ?_) places
      rw [List.map_append, ← List.append_assoc]
      exact kept.append_right _
  obtain ⟨end', packed, width, _, fewer⟩ :=
    openWaiting_keeps upkeep separate underway' opens
  exact ⟨end', packed, width, fewer⟩

/-- A batch in which nothing happens any more has closed all groups. -/
theorem closed_of_idle {b : Batch} {w : World σ τ} (underway : Underway I P Q groups b b.waiting w)
    (packed : Packed b) (width : 0 < b.width) (idle : b.nextDue? = none) :
    (b.closed.map Prod.fst).Perm (List.range groups.length) := by
  have still : ∀ x ∈ b.opened, x.2.running = [] := by
    rw [Batch.nextDue?, List.min?_eq_none_iff, List.flatMap_eq_nil_iff] at idle
    intro x member
    exact List.map_eq_nil_iff.mp (idle x member)
  have opened : b.opened = [] := by
    apply List.eq_nil_iff_forall_not_mem.mpr
    intro x member
    obtain ⟨tasks, _, ⟨_, _, _, _, _, _, room, full⟩, busy⟩ := underway.opened x member
    have empty : x.2.queue = [] := by
      apply Classical.byContradiction
      intro some
      have := full some
      rw [still x member, List.length_nil] at this
      omega
    rw [Group.isDone, empty, still x member] at busy
    exact absurd busy (by decide)
  have waiting : b.waiting = [] := by
    apply Classical.byContradiction
    intro some
    have := packed some
    rw [opened, List.length_nil] at this
    omega
  have places := underway.places
  rw [opened, waiting, List.map_nil, List.map_nil, List.nil_append, List.nil_append] at places
  exact places

theorem finish_keeps (upkeep : e.Upkeep apart I P) (separate : Separate apart groups) {b : Batch} {w : World σ τ}
    (underway : Underway I P Q groups b b.waiting w) (packed : Packed b) (width : 0 < b.width)
    (opens : ∀ x ∈ b.waiting, Opens e I P Q x.2) :
    I (e.finish b w).1.clock (e.finish b w).2 ∧
      ∀ (i : Nat) (tasks : List Task), groups[i]? = some tasks → ∃ verdicts,
        ((e.finish b w).1.verdicts groups.length)[i]? = some verdicts ∧
          Settled P Q tasks verdicts (e.finish b w).2 := by
  induction steps : b.work e.retry.attempts using Nat.strongRecOn generalizing b w with
  | ind n ih =>
    rw [finish]
    split
    · rename_i idle
      refine ⟨underway.inv, ?_⟩
      intro i tasks here
      have places := closed_of_idle underway packed width idle
      have inside : i < groups.length := (List.getElem?_eq_some_iff.mp here).1
      refine ⟨(b.closed.lookup i).getD [], ?_, ?_⟩
      · rw [Batch.verdicts, List.getElem?_map, List.getElem?_range inside, Option.map_some]
      · cases looked : b.closed.lookup i with
        | none =>
          have present : i ∈ b.closed.map Prod.fst := places.mem_iff.mpr (List.mem_range.mpr inside)
          obtain ⟨x, member, same⟩ := List.mem_map.mp present
          have absent := List.lookup_eq_none_iff.mp looked x member
          simp [same] at absent
        | some verdicts =>
          obtain ⟨before, after, split, _⟩ := List.lookup_eq_some_iff.mp looked
          obtain ⟨tasks', there, settled⟩ := underway.closed (i, verdicts) (by rw [split]; simp)
          obtain rfl := Option.some.inj (here.symm.trans there)
          exact settled
    · rename_i time next
      obtain ⟨underway', packed', width', fewer⟩ := jump_keeps upkeep separate underway next opens
      refine ih _ ?_ underway' packed' (by rw [width']; exact width)
        (fun x member => opens x (fewer x member)) rfl
      rw [← steps]
      exact work_jump_lt e w next

/-! ### Whole runs -/

theorem getElem?_of_mem_numbered {x : Nat × List Task}
    (member : x ∈ (List.range groups.length).zip groups) : groups[x.1]? = some x.2 := by
  obtain ⟨i, inside, same⟩ := List.mem_iff_getElem.mp member
  rw [List.length_zip, List.length_range, Nat.min_self] at inside
  rw [List.getElem_zip, List.getElem_range] at same
  rw [← same]
  exact List.getElem?_eq_getElem inside

/-- What starts and steps keep, and the lookups of each group with them, holds at the end of a run. -/
theorem runGroups_keeps (upkeep : e.Upkeep apart I P) (separate : Separate apart groups) {width bound : Nat}
    {w : World σ τ} (wide : 0 < width) (room : 0 < bound) (inv : I 0 w)
    (fresh : ∀ tasks ∈ groups, ∀ t ∈ tasks, P t.job .waiting w)
    (opens : ∀ tasks ∈ groups, Opens e I P Q tasks) :
    I (e.runGroups width bound groups w).1.2 (e.runGroups width bound groups w).2 ∧
      ∀ (i : Nat) (tasks : List Task), groups[i]? = some tasks → ∃ verdicts,
        ((e.runGroups width bound groups w).1.1)[i]? = some verdicts ∧
          Settled P Q tasks verdicts (e.runGroups width bound groups w).2 := by
  have listed : ∀ x ∈ (List.range groups.length).zip groups, x.2 ∈ groups :=
    fun x member => List.mem_of_getElem? (getElem?_of_mem_numbered member)
  have underway : Underway I P Q groups { width, bound } ((List.range groups.length).zip groups) w := by
    refine ⟨inv, ?_, by simp, by simp, ?_, room⟩
    · exact fun x member => ⟨getElem?_of_mem_numbered member, fresh x.2 (listed x member)⟩
    · rw [List.map_fst_zip (by simp)]
      simp
  obtain ⟨underway', packed, width', _, fewer⟩ :=
    openWaiting_keeps upkeep separate underway fun x member => opens x.2 (listed x member)
  exact finish_keeps upkeep separate underway' packed (by rw [width']; exact wide)
    fun x member => opens x.2 (listed x (fewer x member))

theorem length_runGroups (e : Engine σ τ) (width bound : Nat) (groups : List (List Task)) (w : World σ τ) :
    (e.runGroups width bound groups w).1.1.length = groups.length := by
  simp [runGroups, Batch.verdicts]

theorem runGroup_keeps (upkeep : e.Upkeep apart I P) {tasks : List Task} {bound : Nat} {w : World σ τ}
    (room : 0 < bound) (inv : I 0 (e.assign [] tasks w).2) (has : Q tasks (e.found tasks w.store))
    (fresh : ∀ job ∈ Group.jobsOf (e.assign [] tasks w).1, P job .queued (e.assign [] tasks w).2)
    (waits : ∀ t ∈ tasks, P t.job .waiting (e.assign [] tasks w).2) :
    ∃ verdicts elapsed w', e.runGroups 1 bound [tasks] w = (([verdicts], elapsed), w') ∧ I elapsed w' ∧
      Settled P Q tasks verdicts w' := by
  obtain ⟨invOpen, opened, _⟩ := openGroup_keeps upkeep 0 room inv has fresh waits
  have separate : Separate apart [tasks] := List.pairwise_singleton _ _
  have begun : ∃ b : Batch, b.width = 1 ∧ b.waiting = [] ∧ e.openWaiting { width := 1, bound } [(0, tasks)] w =
      (b, (e.openGroup 0 bound tasks w).2) ∧ Underway I P Q [tasks] b [] (e.openGroup 0 bound tasks w).2 := by
    by_cases done : (e.openGroup 0 bound tasks w).1.isDone
    · refine ⟨{ width := 1, bound, closed := [(0, (e.openGroup 0 bound tasks w).1.verdicts)] }, rfl, rfl, ?_, ?_⟩
      · simp [openWaiting, done]
      · refine ⟨invOpen, by simp, by simp, ?_, by simp, room⟩
        intro x member
        obtain rfl := List.mem_singleton.mp member
        exact ⟨tasks, rfl, opened.settled done⟩
    · refine ⟨{ width := 1, bound, opened := [(0, (e.openGroup 0 bound tasks w).1)] }, rfl, rfl, ?_, ?_⟩
      · simp [openWaiting, done]
      · refine ⟨invOpen, by simp, ?_, by simp, by simp, room⟩
        intro x member
        obtain rfl := List.mem_singleton.mp member
        exact ⟨tasks, rfl, opened, by simpa using done⟩
  obtain ⟨b, width, waiting, began, underway⟩ := begun
  rw [← waiting] at underway
  obtain ⟨invEnd, settled⟩ := finish_keeps upkeep separate underway (fun some => absurd waiting some)
    (by rw [width]; exact Nat.one_pos) (by simp [waiting])
  obtain ⟨verdicts, here, end'⟩ := settled 0 tasks rfl
  refine ⟨verdicts, (e.finish b (e.openGroup 0 bound tasks w).2).1.clock,
    (e.finish b (e.openGroup 0 bound tasks w).2).2, ?_, invEnd, end'⟩
  have listed : (e.finish b (e.openGroup 0 bound tasks w).2).1.verdicts 1 = [verdicts] := by
    rw [Batch.verdicts, List.getElem?_map] at here
    rw [Batch.verdicts]
    simpa using here
  rw [runGroups]
  simp [List.range_succ, began, listed]

theorem run_keeps (upkeep : e.Upkeep apart I P) {tasks : List Task} {concurrency : Nat} {w : World σ τ}
    (some : 0 < concurrency) (inv : I 0 (e.assign [] tasks w).2) (has : Q tasks (e.found tasks w.store))
    (fresh : ∀ job ∈ Group.jobsOf (e.assign [] tasks w).1, P job .queued (e.assign [] tasks w).2)
    (waits : ∀ t ∈ tasks, P t.job .waiting (e.assign [] tasks w).2) :
    ∃ verdicts elapsed w', e.run tasks concurrency w = .ok ((verdicts, elapsed), w') ∧ I elapsed w' ∧
      Settled P Q tasks verdicts w' := by
  obtain ⟨verdicts, elapsed, w', ran, invEnd, settled⟩ := runGroup_keeps upkeep some inv has fresh waits
  refine ⟨verdicts, elapsed, w', ?_, invEnd, settled⟩
  rw [run, if_neg (Nat.ne_of_gt some), ran]
  simp

end Course

end Engine

end PolicyLint
