import PolicyLint.Proofs.Run.Lookup

/-!
# What steps keep, runs keep

A property of worlds and one of jobs that every start and every step of a check keeps holds all the way
through a run. `Upkeep` states what has to be shown of a single start or step; `fill_keeps` and
`tick_keeps` carry it over the loops of a group.
-/

namespace PolicyLint

namespace Engine

variable {σ τ : Type}

inductive Stage where
  /-- Its group has not opened. -/
  | waiting
  /-- The store has missed its key. -/
  | queued
  | reached (progress : Progress)

/-- A property of worlds at a time, and one of what jobs have come to in a world, that starts and steps
keep. A job is not disturbed by those with keys apart from its own. -/
structure Upkeep (e : Engine σ τ) (apart : Key → Key → Prop) (I : Nat → World σ τ → Prop)
    (P : Job → Stage → World σ τ → Prop) : Prop where
  symm : ∀ {k k' : Key}, apart k k' → apart k' k
  ofNe : ∀ {k k' : Key}, k ≠ k' → apart k k'
  later : ∀ {time time' : Nat} {w : World σ τ}, I time w → time ≤ time' → I time' w
  start : ∀ {time : Nat} {job : Job} {w : World σ τ}, I time w → P job .queued w →
    I time (e.start time job w).2 ∧ P job (.reached (e.start time job w).1) (e.start time job w).2 ∧
      ∀ {job' : Job} {p : Stage}, apart job.key job'.key → P job' p w → P job' p (e.start time job w).2
  step : ∀ {c : Check} {w : World σ τ}, I c.due w → P c.job (.reached (.inl c)) w →
    I c.due (e.step c.due c w).2 ∧ P c.job (.reached (e.step c.due c w).1) (e.step c.due c w).2 ∧
      ∀ {job' : Job} {p : Stage}, apart c.job.key job'.key → P job' p w →
        P job' p (e.step c.due c w).2

/-! ### Checks stay with their jobs and never wait for the past -/

theorem settle_le (e : Engine σ τ) (time : Nat) (r : Response) : time ≤ (e.settle time r).1 := by
  unfold settle
  split
  · exact Nat.le_add_right _ _
  · exact Nat.le_add_right _ _

theorem attempt_inl (e : Engine σ τ) {time : Nat} {c c' : Check} {w : World σ τ}
    (goes : (e.attempt time c w).1 = .inl c') : c'.job = c.job ∧ time ≤ c'.due := by
  unfold attempt at goes
  split at goes
  · exact absurd goes (by simp)
  · obtain rfl := Sum.inl.inj goes
    exact ⟨rfl, settle_le e time _⟩

theorem start_inl (e : Engine σ τ) {time : Nat} {job : Job} {c : Check} {w : World σ τ}
    (goes : (e.start time job w).1 = .inl c) : c.job = job ∧ time ≤ c.due := by
  unfold start at goes
  exact attempt_inl e goes

theorem bill_job (c : Check) (outcome : Except JudgeFault Completion) : (bill c outcome).job = c.job := by
  cases outcome with
  | ok completion => rfl
  | error fault => rfl

theorem step_inl (e : Engine σ τ) {time : Nat} {c c' : Check} {w : World σ τ}
    (goes : (e.step time c w).1 = .inl c') : c'.job = c.job ∧ time ≤ c'.due := by
  unfold step at goes
  split at goes
  · exact attempt_inl e goes
  · dsimp only at goes
    split at goes
    · exact absurd goes (by simp)
    · exact absurd goes (by simp)
    · obtain rfl := Sum.inl.inj goes
      exact ⟨bill_job c _, Nat.le_add_right _ _⟩

/-! ### The checks of a group -/

section Keeping

variable {e : Engine σ τ} {apart : Key → Key → Prop} {I : Nat → World σ τ → Prop}
  {P : Job → Stage → World σ τ → Prop}

/-- What the jobs of a group have come to at a time. Each of them waits in the queue, has a running
check or is finished. -/
structure Holds (P : Job → Stage → World σ τ → Prop) (time : Nat) (g : Group) (w : World σ τ) :
    Prop where
  queued : ∀ job ∈ g.queue, job ∈ Group.jobsOf g.slots ∧ P job .queued w
  running : ∀ c ∈ g.running, c.job ∈ Group.jobsOf g.slots ∧ time ≤ c.due ∧ P c.job (.reached (.inl c)) w
  finished : ∀ p ∈ g.finished, ∃ job ∈ Group.jobsOf g.slots, job.key = p.1 ∧ P job (.reached (.inr p.2)) w
  keys : (g.queue.map Job.key ++ (g.running.map (·.job.key) ++ g.finished.map Prod.fst)).Perm
    ((Group.jobsOf g.slots).map Job.key)

theorem Holds.mono {time : Nat} {g : Group} {w w' : World σ τ} (holds : Holds P time g w)
    (kept : ∀ job ∈ Group.jobsOf g.slots, ∀ p, P job p w → P job p w') : Holds P time g w' where
  queued job member := ⟨(holds.queued job member).1, kept _ (holds.queued job member).1 _ (holds.queued job member).2⟩
  running c member := by
    obtain ⟨known, due, has⟩ := holds.running c member
    exact ⟨known, due, kept _ known _ has⟩
  finished p member := by
    obtain ⟨job, known, same, has⟩ := holds.finished p member
    exact ⟨job, known, same, kept _ known _ has⟩
  keys := holds.keys

/-- What one step keeps of a job, a check keeps until it has to wait. -/
theorem Upkeep.proceed (upkeep : e.Upkeep apart I P) {time : Nat} {job : Job} {p : Progress} {w : World σ τ}
    (inv : I time w) (own : ∀ c, p = .inl c → c.job = job ∧ time ≤ c.due) (has : P job (.reached p) w) :
    I time (e.proceed time p w).2 ∧ P job (.reached (e.proceed time p w).1) (e.proceed time p w).2 ∧
      (∀ c, (e.proceed time p w).1 = .inl c → c.job = job ∧ time ≤ c.due) ∧
      ∀ {job' : Job} {stage : Stage}, apart job.key job'.key → P job' stage w →
        P job' stage (e.proceed time p w).2 := by
  refine proceed_keeps (P := fun p' w' => I time w' ∧ P job (.reached p') w' ∧
    (∀ c, p' = .inl c → c.job = job ∧ time ≤ c.due) ∧
    ∀ {job' : Job} {stage : Stage}, apart job.key job'.key → P job' stage w → P job' stage w') ?_
    ⟨inv, has, own, fun _ before => before⟩
  rintro c w' due ⟨inv', has', own', frame⟩
  obtain ⟨rfl, late⟩ := own' c rfl
  -- No check waits for the past, so one that is not later than the time is due right now.
  obtain rfl : time = c.due := Nat.le_antisymm late due
  obtain ⟨invNext, hasNext, frameNext⟩ := upkeep.step inv' has'
  exact ⟨invNext, hasNext, fun c' goes => step_inl e goes, fun others before => frameNext others (frame others before)⟩

theorem Upkeep.launch (upkeep : e.Upkeep apart I P) {time : Nat} {job : Job} {w : World σ τ} (inv : I time w)
    (has : P job .queued w) :
    I time (e.launch time job w).2 ∧ P job (.reached (e.launch time job w).1) (e.launch time job w).2 ∧
      (∀ c, (e.launch time job w).1 = .inl c → c.job = job ∧ time ≤ c.due) ∧
      ∀ {job' : Job} {stage : Stage}, apart job.key job'.key → P job' stage w →
        P job' stage (e.launch time job w).2 := by
  obtain ⟨inv', has', frame⟩ := upkeep.start inv has
  obtain ⟨invEnd, hasEnd, own, frameEnd⟩ := upkeep.proceed inv' (fun c goes => start_inl e goes) has'
  exact ⟨invEnd, hasEnd, own, fun others before => frameEnd others (frame others before)⟩

theorem stepDue_keeps (upkeep : e.Upkeep apart I P) {time : Nat} {jobs : List Job} {checks : List Check}
    {w : World σ τ} (inv : I time w)
    (holds : ∀ c ∈ checks, c.job ∈ jobs ∧ time ≤ c.due ∧ P c.job (.reached (.inl c)) w)
    (distinct : (checks.map (·.job.key)).Pairwise apart) :
    I time (e.stepDue time checks w).2.2 ∧
      (∀ c ∈ (e.stepDue time checks w).1,
        c.job ∈ jobs ∧ time ≤ c.due ∧ P c.job (.reached (.inl c)) (e.stepDue time checks w).2.2) ∧
      (∀ p ∈ (e.stepDue time checks w).2.1,
        ∃ job ∈ jobs, job.key = p.1 ∧ P job (.reached (.inr p.2)) (e.stepDue time checks w).2.2) ∧
      ((e.stepDue time checks w).1.map (·.job.key) ++ (e.stepDue time checks w).2.1.map Prod.fst).Perm
        (checks.map (·.job.key)) ∧
      ∀ job p, (∀ c ∈ checks, apart c.job.key job.key) → P job p w →
        P job p (e.stepDue time checks w).2.2 := by
  induction checks generalizing w with
  | nil => exact ⟨inv, by simp [stepDue], by simp [stepDue], by simp [stepDue], fun _ _ _ has => has⟩
  | cons c rest ih =>
    obtain ⟨known, early, has⟩ := holds c List.mem_cons_self
    rw [List.map_cons, List.pairwise_cons] at distinct
    obtain ⟨apartRest, distinct⟩ := distinct
    have apartOf : ∀ c' ∈ rest, apart c.job.key c'.job.key :=
      fun c' member => apartRest _ (List.mem_map_of_mem member)
    have begins : ∀ c', (Sum.inl c : Progress) = .inl c' → c'.job = c.job ∧ time ≤ c'.due := by
      rintro _ ⟨⟩
      exact ⟨rfl, early⟩
    obtain ⟨inv', has', own, frame⟩ := upkeep.proceed inv begins has
    have holds' : ∀ c' ∈ rest, c'.job ∈ jobs ∧ time ≤ c'.due ∧
        P c'.job (.reached (.inl c')) (e.proceed time (.inl c) w).2 := by
      intro c' member
      obtain ⟨known', early', other⟩ := holds c' (List.mem_cons_of_mem _ member)
      exact ⟨known', early', frame (apartOf c' member) other⟩
    obtain ⟨invEnd, goOn, ended, keys, frameRest⟩ := ih inv' holds' distinct
    have frameAll : ∀ job p, (∀ c' ∈ c :: rest, apart c'.job.key job.key) → P job p w →
        P job p (e.stepDue time rest (e.proceed time (.inl c) w).2).2.2 := by
      intro job p others before
      exact frameRest job p (fun c' member => others c' (List.mem_cons_of_mem _ member))
        (frame (others c List.mem_cons_self) before)
    rcases went : e.proceed time (.inl c) w with ⟨c' | v, w'⟩
    · rw [went] at has' own invEnd goOn ended keys frameRest frameAll
      obtain ⟨stays, later⟩ := own c' rfl
      simp only [stepDue, went]
      refine ⟨invEnd, ?_, ended, ?_, frameAll⟩
      · intro x member
        rcases List.mem_cons.mp member with rfl | member
        · rw [stays]
          refine ⟨known, later, frameRest _ _ ?_ has'⟩
          intro c'' member'
          exact upkeep.symm (apartOf c'' member')
        · exact goOn x member
      · rw [List.map_cons, List.map_cons, List.cons_append, stays]
        exact keys.cons _
    · rw [went] at has' invEnd goOn ended keys frameRest frameAll
      simp only [stepDue, went]
      refine ⟨invEnd, goOn, ?_, ?_, frameAll⟩
      · intro x member
        rcases List.mem_cons.mp member with rfl | member
        · refine ⟨c.job, known, rfl, frameRest _ _ ?_ has'⟩
          intro c'' member'
          exact upkeep.symm (apartOf c'' member')
        · exact ended x member
      · rw [List.map_cons, List.map_cons]
        exact List.perm_middle.trans (keys.cons _)

theorem fill_shape (e : Engine σ τ) (time : Nat) (g : Group) (queue : List Job) (w : World σ τ) :
    (e.fill time g queue w).1.slots = g.slots ∧ (e.fill time g queue w).1.bound = g.bound ∧
      ((e.fill time g queue w).1.queue ≠ [] → g.bound ≤ (e.fill time g queue w).1.running.length) := by
  induction queue generalizing g w with
  | nil => exact ⟨rfl, rfl, fun waiting => absurd rfl waiting⟩
  | cons job rest ih =>
    unfold fill
    split
    · rcases e.launch time job w with ⟨c | v, w'⟩
      · exact ih _ _
      · exact ih _ _
    · rename_i full
      exact ⟨rfl, rfl, fun _ => Nat.le_of_not_lt full⟩

theorem fill_keeps (upkeep : e.Upkeep apart I P) {time : Nat} (g : Group) (queue : List Job) {w : World σ τ}
    (inv : I time w) (holds : Holds P time { g with queue } w)
    (distinct : ((Group.jobsOf g.slots).map Job.key).Pairwise apart) :
    I time (e.fill time g queue w).2 ∧ Holds P time (e.fill time g queue w).1 (e.fill time g queue w).2 ∧
      ∀ job p, (∀ job' ∈ Group.jobsOf g.slots, apart job'.key job.key) → P job p w →
        P job p (e.fill time g queue w).2 := by
  induction queue generalizing g w with
  | nil => exact ⟨inv, holds, fun _ _ _ has => has⟩
  | cons job rest ih =>
    unfold fill
    split
    · obtain ⟨known, has⟩ := holds.queued job List.mem_cons_self
      obtain ⟨inv', has', own, frame⟩ := upkeep.launch inv has
      have keys := holds.keys
      rw [List.map_cons, List.cons_append] at keys
      -- The keys of the group are those of its jobs in another order, so this job is apart from all others.
      have apartAll := (List.Perm.pairwise_iff upkeep.symm keys).mpr distinct
      rw [List.pairwise_cons] at apartAll
      have apartOf := apartAll.1
      have queued : ∀ job' ∈ rest, job' ∈ Group.jobsOf g.slots ∧ P job' .queued (e.launch time job w).2 := by
        intro job' member
        obtain ⟨known', other⟩ := holds.queued job' (List.mem_cons_of_mem _ member)
        refine ⟨known', frame (apartOf _ ?_) other⟩
        exact List.mem_append_left _ (List.mem_map_of_mem member)
      have running : ∀ c ∈ g.running, c.job ∈ Group.jobsOf g.slots ∧ time ≤ c.due ∧
          P c.job (.reached (.inl c)) (e.launch time job w).2 := by
        intro c member
        obtain ⟨known', due, other⟩ := holds.running c member
        refine ⟨known', due, frame (apartOf _ ?_) other⟩
        exact List.mem_append_right _ (List.mem_append_left _ (List.mem_map_of_mem member))
      have finished : ∀ p ∈ g.finished, ∃ job' ∈ Group.jobsOf g.slots, job'.key = p.1 ∧
          P job' (.reached (.inr p.2)) (e.launch time job w).2 := by
        intro p member
        obtain ⟨job', known', same, other⟩ := holds.finished p member
        refine ⟨job', known', same, frame (apartOf _ ?_) other⟩
        rw [same]
        exact List.mem_append_right _ (List.mem_append_right _ (List.mem_map_of_mem member))
      have frameOut : ∀ job' p, (∀ job'' ∈ Group.jobsOf g.slots, apart job''.key job'.key) → P job' p w →
          P job' p (e.launch time job w).2 := fun job' p others before => frame (others job known) before
      rcases launched : e.launch time job w with ⟨c | v, w'⟩
      · rw [launched] at inv' has' own queued running finished frameOut
        have stays := own c rfl
        have holds' : Holds P time { g with running := g.running ++ [c], queue := rest } w' := by
          refine ⟨queued, ?_, finished, ?_⟩
          · intro x member
            rcases List.mem_append.mp member with member | member
            · exact running x member
            · obtain rfl := List.mem_singleton.mp member
              rw [stays.1]
              exact ⟨known, stays.2, has'⟩
          · refine List.Perm.trans ?_ keys
            rw [List.map_append, List.map_singleton, stays.1, List.append_assoc, List.singleton_append]
            exact ((List.perm_middle).append_left _).trans List.perm_middle
        obtain ⟨invEnd, holdsEnd, frameEnd⟩ := ih { g with running := g.running ++ [c] } inv' holds' distinct
        exact ⟨invEnd, holdsEnd, fun job' p others before => frameEnd job' p others (frameOut job' p others before)⟩
      · rw [launched] at inv' has' queued running finished frameOut
        have holds' : Holds P time { g with finished := (job.key, v) :: g.finished, queue := rest } w' := by
          refine ⟨queued, running, ?_, ?_⟩
          · intro x member
            rcases List.mem_cons.mp member with rfl | member
            · exact ⟨job, known, rfl, has'⟩
            · exact finished x member
          · refine List.Perm.trans ?_ keys
            rw [List.map_cons]
            exact ((List.perm_middle).append_left _).trans List.perm_middle
        obtain ⟨invEnd, holdsEnd, frameEnd⟩ :=
          ih { g with finished := (job.key, v) :: g.finished } inv' holds' distinct
        exact ⟨invEnd, holdsEnd, fun job' p others before => frameEnd job' p others (frameOut job' p others before)⟩
    · exact ⟨inv, holds, fun _ _ _ has => has⟩

theorem tick_shape (e : Engine σ τ) (time : Nat) (g : Group) (w : World σ τ) :
    (e.tick time g w).1.slots = g.slots ∧ (e.tick time g w).1.bound = g.bound ∧
      ((e.tick time g w).1.queue ≠ [] → g.bound ≤ (e.tick time g w).1.running.length) := by
  unfold tick
  exact fill_shape e time _ g.queue _

theorem tick_keeps (upkeep : e.Upkeep apart I P) {time earlier : Nat} {g : Group} {w : World σ τ}
    (inv : I time w) (holds : Holds P earlier g w) (due : ∀ c ∈ g.running, time ≤ c.due)
    (distinct : ((Group.jobsOf g.slots).map Job.key).Pairwise apart) :
    I time (e.tick time g w).2 ∧ Holds P time (e.tick time g w).1 (e.tick time g w).2 ∧
      ∀ job p, (∀ job' ∈ Group.jobsOf g.slots, apart job'.key job.key) → P job p w →
        P job p (e.tick time g w).2 := by
  have apartAll := (List.Perm.pairwise_iff upkeep.symm holds.keys).mpr distinct
  rw [List.pairwise_append, List.pairwise_append] at apartAll
  obtain ⟨_, ⟨apartRunning, _, apartFinished⟩, apartQueued⟩ := apartAll
  have running : ∀ c ∈ g.running, c.job ∈ Group.jobsOf g.slots ∧ time ≤ c.due ∧ P c.job (.reached (.inl c)) w := by
    intro c member
    obtain ⟨known, _, has⟩ := holds.running c member
    exact ⟨known, due c member, has⟩
  obtain ⟨inv', goOn, ended, keys, frame⟩ := stepDue_keeps upkeep inv running apartRunning
  have outside : ∀ c ∈ g.running, ∀ k ∈ g.queue.map Job.key ++ g.finished.map Prod.fst, apart c.job.key k := by
    intro c member k there
    have here : c.job.key ∈ g.running.map (·.job.key) := List.mem_map_of_mem (f := fun c => c.job.key) member
    rcases List.mem_append.mp there with there | there
    · exact upkeep.symm (apartQueued k there _ (List.mem_append_left _ here))
    · exact apartFinished _ here k there
  have holds' : Holds P time
      { g with
        running := (e.stepDue time g.running w).1
        finished := (e.stepDue time g.running w).2.1 ++ g.finished } (e.stepDue time g.running w).2.2 := by
    refine ⟨?_, goOn, ?_, ?_⟩
    · intro job member
      obtain ⟨known, has⟩ := holds.queued job member
      refine ⟨known, frame _ _ ?_ has⟩
      intro c there
      exact outside c there _ (List.mem_append_left _ (List.mem_map_of_mem member))
    · intro p member
      rcases List.mem_append.mp member with member | member
      · exact ended p member
      · obtain ⟨job, known, same, has⟩ := holds.finished p member
        refine ⟨job, known, same, frame _ _ ?_ has⟩
        intro c there
        rw [same]
        exact outside c there _ (List.mem_append_right _ (List.mem_map_of_mem member))
    · refine List.Perm.trans (List.Perm.append_left _ ?_) holds.keys
      rw [List.map_append, ← List.append_assoc]
      exact keys.append_right _
  unfold tick
  obtain ⟨invEnd, holdsEnd, frameEnd⟩ := fill_keeps upkeep
    { g with
      running := (e.stepDue time g.running w).1
      finished := (e.stepDue time g.running w).2.1 ++ g.finished }
    g.queue inv' holds' distinct
  refine ⟨invEnd, holdsEnd, ?_⟩
  intro job p others before
  refine frameEnd job p others (frame job p ?_ before)
  intro c member
  exact others _ (holds.running c member).1

end Keeping

end Engine

end PolicyLint
