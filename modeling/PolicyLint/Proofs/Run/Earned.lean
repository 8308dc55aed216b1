import PolicyLint.Proofs.Cache.Manager
import PolicyLint.Proofs.Run.Flight

/-!
# Where stored verdicts come from

A run keeps to this at every moment: each verdict that it has filed, and with a manager as its store each
entry that the manager has, is the verdict of a check that did not fail, under the key of its task, with the
findings of a completion that the judge gave for it.
-/

namespace PolicyLint

/-- An entry under a key that some calls have earned: the verdict of one check, whose findings a completion
of a judge for a task with the key was read as. -/
structure Earned {σ : Type} (judge : Judge σ) (calls : List Call) (k : Key) (entry : Entry) : Prop where
  own : entry.key = k
  judged : entry.verdict.failures = []
  checks : entry.verdict.checks = 1
  hits : entry.verdict.hits = 0
  misses : entry.verdict.misses = 1
  asked : 1 ≤ entry.verdict.calls
  source : ∃ (task : Task) (call : Call) (completion : Completion) (s : σ), task.key = k ∧ call ∈ calls ∧ call.key = k ∧
    call.prompt = task.prompt ∧ call.model = task.model ∧ call.outcome = .ok completion ∧
    (judge.ask s task.prompt task.model).1.outcome = .ok completion ∧
    readCompletion completion.text task.file.path task.rule.name = .ok entry.verdict.findings

theorem Earned.mono {σ : Type} {judge : Judge σ} {calls calls' : List Call} {k : Key} {entry : Entry}
    (earned : Earned judge calls k entry) (more : ∀ call ∈ calls, call ∈ calls') : Earned judge calls' k entry := by
  obtain ⟨task, call, completion, s, key, made, rest⟩ := earned.source
  exact { earned with source := ⟨task, call, completion, s, key, more call made, rest⟩ }

namespace Engine

variable {σ : Type}

section Judged

variable {τ : Type} {e : Engine σ τ} {stopped : Nat → Prop} {job : Job} {calls : List Call} {v : Verdict}

/-- A completion that a call brings is one that the judge gave in time. -/
theorem Asks.given {time : Nat} {call : Call} (asks : e.Asks job time call) {completion : Completion}
    (brought : call.outcome = .ok completion) :
    ∃ s, (e.judge.ask s job.task.prompt job.task.model).1.outcome = .ok completion := by
  obtain ⟨_, _, prompt, model, s, settled⟩ := asks
  refine ⟨s, ?_⟩
  rw [← prompt, ← model]
  unfold settle at settled
  split at settled
  · have outcome := congrArg (fun x => x.2.2) settled
    exact outcome.trans brought
  · have outcome := congrArg (fun x => x.2.2) settled
    dsimp only at outcome
    rw [brought] at outcome
    exact absurd outcome (by simp)

theorem After.earned (after : e.After stopped job calls (.inr v)) (judged : v.failures = [])
    (keyed : job.key = job.task.key) (created : Nat) :
    Earned e.judge calls job.key { key := job.key, verdict := v, created } := by
  have bills := after.bills
  rcases after.judged_or_failed with ⟨kind, why, failed, _⟩ | ⟨_, call, made, asks, completion, brought, read⟩
  · rw [judged] at failed
    exact absurd failed (by simp)
  · obtain ⟨s, given⟩ := asks.given brought
    refine ⟨rfl, judged, bills.checks, bills.hits, bills.misses, ?_, ?_⟩
    · show 1 ≤ v.calls
      rw [bills.calls]
      exact List.length_pos_of_mem made
    · exact ⟨job.task, call, completion, s, keyed.symm, made, asks.2.1, asks.2.2.1, asks.2.2.2.1, brought, given, read⟩

end Judged

/-! ### Every moment keeps to it -/

section Moments

variable {τ : Type} {e : Engine σ τ} {held : World σ τ → Key × Entry → Prop} {base : World σ τ} {limit : Nat}

structure Keeping (e : Engine σ τ) (held : World σ τ → Key × Entry → Prop) : Prop where
  look : ∀ {key : Key} {w : World σ τ} {p : Key × Entry}, held (e.lookup key w).2 p → held w p
  note : ∀ {notices : List Notice} {w : World σ τ} {p : Key × Entry}, held { w with notices } p → held w p
  save : ∀ {w : World σ τ} {p : Key × Entry}, held { w with store := (e.store.flush w.store).2 } p → held w p
  file : ∀ {made : List Call} {stored : List (Key × Verdict)} {w w' : World σ τ} {p : Key × Entry},
    e.Follows w w' made stored → held w' p →
      held w p ∨ ∃ v created, (p.1, v) ∈ stored ∧ p.2 = { key := p.1, verdict := v, created }

/-- The calls of all checks that go on and of all entries that are held were made since an earlier world. -/
structure Grounded (e : Engine σ τ) (held : World σ τ → Key × Entry → Prop) (base : World σ τ) (m : Moment σ τ) :
    Prop where
  calls : m.world.calls = base.calls ++ m.world.callsSince base
  running : ∀ c ∈ m.running, m.time ≤ c.due ∧ c.job.key = c.job.task.key ∧
    ∃ calls, e.After (fun _ => True) c.job calls (.inl c) ∧ ∀ call ∈ calls, call ∈ m.world.callsSince base
  entries : ∀ p, held m.world p → Earned e.judge (m.world.callsSince base) p.1 p.2

theorem Grounded.still {m : Moment σ τ} (grounded : e.Grounded held base m) {w : World σ τ} (calls : w.calls = m.world.calls)
    (entries : ∀ p, held w p → held m.world p) : e.Grounded held base { m with world := w } := by
  have since : w.callsSince base = m.world.callsSince base := by rw [World.callsSince, calls, World.callsSince]
  refine ⟨?_, ?_, ?_⟩
  · rw [since, calls]
    exact grounded.calls
  · rw [since]
    exact grounded.running
  · rw [since]
    exact fun p member => grounded.entries p (entries p member)

/-- A check that starts or goes on keeps to it, by what it adds to the calls and files. -/
theorem Grounded.follow (keeping : e.Keeping held) {m : Moment σ τ} (grounded : e.Grounded held base m) {job : Job}
    {calls made : List Call} {p : Progress} {w : World σ τ} {others : Multiset Check} (keyed : job.key = job.task.key)
    (follows : e.Follows m.world w made (filedFor job p)) (after : e.After (fun _ => True) job (calls ++ made) p)
    (known : ∀ call ∈ calls, call ∈ m.world.callsSince base)
    (goes : ∀ c, p = .inl c → c.job = job ∧ m.time ≤ c.due) (left : ∀ c ∈ others, c ∈ m.running) :
    e.Grounded held base { m with running := onward p others, world := w } := by
  have since := callsSince_append grounded.calls follows.calls
  have more : ∀ call ∈ m.world.callsSince base, call ∈ w.callsSince base := by
    intro call member
    rw [since]
    exact List.mem_append_left _ member
  have own : ∀ call ∈ calls ++ made, call ∈ w.callsSince base := by
    intro call member
    rw [since]
    rcases List.mem_append.mp member with old | new
    · exact List.mem_append_left _ (known call old)
    · exact List.mem_append_right _ new
  refine ⟨?_, ?_, ?_⟩
  · rw [since, follows.calls, ← List.append_assoc, ← grounded.calls]
  · intro c member
    rcases mem_onward member with rfl | old
    · obtain ⟨rfl, late⟩ := goes c rfl
      exact ⟨late, keyed, _, after, own⟩
    · obtain ⟨late, same, history, sofar, listed⟩ := grounded.running c (left c old)
      exact ⟨late, same, history, sofar, fun call there => more call (listed call there)⟩
  · rintro ⟨k, entry⟩ member
    rcases keeping.file follows member with old | ⟨v, created, filed, same⟩
    · exact (grounded.entries _ old).mono more
    · -- A verdict with failures is not filed, so whatever is new was judged.
      dsimp only at filed same
      subst same
      cases p with
      | inl c => exact absurd filed (by simp [filedFor])
      | inr v' =>
        unfold filedFor at filed
        dsimp only at filed
        split at filed
        · rename_i judged
          obtain ⟨rfl, rfl⟩ := Prod.mk.inj (List.mem_singleton.mp filed)
          exact (after.earned (List.isEmpty_iff.mp judged) keyed created).mono own
        · exact absurd filed List.not_mem_nil

theorem Event.grounded (keeping : e.Keeping held) {m m' : Moment σ τ} (grounded : e.Grounded held base m)
    (event : e.Event limit m m') : e.Grounded held base m' := by
  cases event with
  | lookup key =>
    obtain ⟨_, _, _, calls, _⟩ := lookup_alike e key m.world
    exact grounded.still calls fun p member => keeping.look member
  | @start job keyed room =>
    obtain ⟨made, follows, after, _, _⟩ := @after_start _ _ e (fun _ => True) m.time job m.world fun _ => trivial
    have fresh : e.After (fun _ => True) job ([] ++ made) (e.start m.time job m.world).1 := after
    exact grounded.follow keeping keyed follows fresh (by simp) (fun c goes => start_inl e goes) fun c member => member
  | @step c others runs due =>
    obtain ⟨late, keyed, calls, sofar, known⟩ := grounded.running c (runs ▸ Multiset.mem_cons_self c others)
    have present : c.due = m.time := Nat.le_antisymm due late
    obtain ⟨made, follows, after, _, _⟩ := after_step e sofar fun _ : m.world.isAborted c.due = true => trivial
    rw [present] at follows after
    refine grounded.follow keeping keyed follows after known (fun c' goes => step_inl e goes) ?_
    intro c' member
    rw [runs]
    exact Multiset.mem_cons_of_mem member
  | @wait time later early =>
    refine ⟨grounded.calls, ?_, grounded.entries⟩
    intro c member
    obtain ⟨_, rest⟩ := grounded.running c member
    exact ⟨early c member, rest⟩
  | note notices => exact grounded.still rfl fun p member => keeping.note member
  | save => exact grounded.still rfl fun p member => keeping.save member

/-! ### Filed verdicts -/

theorem keeping_filed (e : Engine σ τ) (base : World σ τ) :
    e.Keeping fun w p => (p.1, p.2.verdict) ∈ w.filedSince base ∧ p.2 = { p.2 with key := p.1, created := 0 } where
  look {key w p} member := by
    obtain ⟨_, _, _, _, filed⟩ := lookup_alike e key w
    rw [World.filedSince, filed] at member
    exact member
  note member := member
  save member := member
  file {made stored w w' p} follows member := by
    obtain ⟨filed, shape⟩ := member
    rw [World.filedSince, follows.filed, List.drop_append] at filed
    rcases List.mem_append.mp filed with old | new
    · exact Or.inl ⟨old, shape⟩
    · exact Or.inr ⟨p.2.verdict, 0, List.mem_of_mem_drop new, shape⟩

/-- What a run files is earned by its own calls. -/
theorem runGroups_earned (e : Engine σ τ) (width bound : Nat) (groups : List (List Task)) (w : World σ τ) :
    ∀ p ∈ (e.runGroups width bound groups w).2.filedSince w,
      Earned e.judge ((e.runGroups width bound groups w).2.callsSince w) p.1 { key := p.1, verdict := p.2, created := 0 } := by
  have begun : e.Grounded (fun w' p => (p.1, p.2.verdict) ∈ w'.filedSince w ∧ p.2 = { p.2 with key := p.1, created := 0 }) w
      ⟨0, 0, w⟩ := by
    refine ⟨?_, fun c member => absurd member (Multiset.notMem_zero c), ?_⟩
    · rw [World.callsSince_self, List.append_nil]
    · rintro p ⟨member, _⟩
      rw [World.filedSince_self] at member
      exact absurd member List.not_mem_nil
  have grounded := (e.runGroups_leads width bound groups w).keeps (Event.grounded (e.keeping_filed w)) begun
  exact fun p member => grounded.entries (p.1, { key := p.1, verdict := p.2, created := 0 }) ⟨member, rfl⟩

end Moments

/-! ### Entries of a manager -/

section Managers

variable {e : Engine σ (Manager × CacheDir)} {base : World σ (Manager × CacheDir)} {limit now : Nat}

abbrev Sound (e : Engine σ (Manager × CacheDir)) (base : World σ (Manager × CacheDir))
    (m : Moment σ (Manager × CacheDir)) : Prop :=
  e.Grounded (fun w p => p ∈ w.store.1.entries.toList) base m

theorem mem_sets {filed : List (Key × Verdict)} {t : Manager × CacheDir} {p : Key × Entry}
    (member : p ∈ ((Store.ofManager now).sets filed t).1.entries.toList) :
    p ∈ t.1.entries.toList ∨ ∃ v created, (p.1, v) ∈ filed ∧ p.2 = { key := p.1, verdict := v, created } := by
  induction filed generalizing t with
  | nil => exact Or.inl member
  | cons first rest ih =>
    rcases ih member with before | ⟨v, created, later, same⟩
    · rcases Manager.mem_set before with rfl | old
      · exact Or.inr ⟨first.2, now, List.mem_cons_self, rfl⟩
      · exact Or.inl old
    · exact Or.inr ⟨v, created, List.mem_cons_of_mem _ later, same⟩

theorem keeping_manager (manages : e.store = .ofManager now) : e.Keeping fun w p => p ∈ w.store.1.entries.toList where
  look {key w p} member := by
    rw [lookup_store, manages] at member
    exact member
  note member := member
  save {w p} member := by
    rw [manages] at member
    exact Manager.mem_flush member
  file {made stored w w' p} follows member := by
    rw [follows.store, manages] at member
    exact mem_sets member

theorem Event.sound (manages : e.store = .ofManager now) {m m' : Moment σ (Manager × CacheDir)} (sound : e.Sound base m)
    (event : e.Event limit m m') : e.Sound base m' :=
  event.grounded (keeping_manager manages) sound

end Managers

end Engine

end PolicyLint
