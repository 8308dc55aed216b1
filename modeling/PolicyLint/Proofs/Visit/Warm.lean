import PolicyLint.Proofs.Cache.Manager
import PolicyLint.Proofs.Review.Input
import PolicyLint.Proofs.Run.Keys
import PolicyLint.Proofs.Visit.Basic

/-!
# Visits that leave their work behind

Every visit finds what the directory holds and answers from it, and it leaves all of that together with
what its own completions were accepted for. So a judge is not asked about a key again in any later visit.
-/

namespace PolicyLint

namespace Visit

variable {σ : Type} {v : Visit σ} {d : CacheDir}

/-- A verdict that is stored at a time has not expired when the visit is made. -/
def Trusts (v : Visit σ) (created : Nat) : Prop :=
  ∀ age, v.config.cacheMaxAge? = some age → v.now - created ≤ age

/-! ### One visit -/

theorem separate_of_apart {width bound : Nat} {groups : List (List Task)} (accepted : v.batch = some (width, bound, groups))
    (apart : Task.Apart v.tasks) : Engine.Separate (· ≠ ·) groups := by
  rw [tasks, accepted] at apart
  dsimp only at apart
  unfold batch at accepted
  split at accepted
  · rename_i files rules
    split at accepted
    · exact absurd accepted (by simp)
    · split at accepted
      · exact absurd accepted (by simp)
      · simp only [Option.some.injEq, Prod.mk.injEq] at accepted
        obtain ⟨rfl, rfl, rfl⟩ := accepted
        exact List.pairwise_singleton _ _
  · rename_i plan rules fixturesOf
    split at accepted
    · exact absurd accepted (by simp)
    · rename_i valid
      split at accepted
      · exact absurd accepted (by simp)
      · simp only [Option.some.injEq, Prod.mk.injEq] at accepted
        obtain ⟨rfl, rfl, rfl⟩ := accepted
        refine Engine.separate_of_names ?_ ?_ apart
        · exact (names_of_validateRules valid).sublist (List.filter_sublist.map _)
        · intro rule _ t member
          obtain ⟨_, _, rfl⟩ := List.mem_map.mp member
          rfl

theorem run_warm {width bound : Nat} {groups : List (List Task)} (accepted : v.batch = some (width, bound, groups))
    (apart : Task.Apart v.tasks) (d : CacheDir) :
    v.reviewer.engine.Warm groups (v.opening d) (v.reviewer.engine.runGroups width bound groups (v.opening d)).2
      (v.reviewer.engine.runGroups width bound groups (v.opening d)).1.1 := by
  obtain ⟨wide, room, _⟩ := finish_of_accepted accepted d
  exact Engine.runGroups_warm (e := v.reviewer.engine) (Store.ofManager_lawful v.now) (separate_of_apart accepted apart)
    wide room (v.opening d)

theorem saved_of_willing (apart : Task.Apart v.tasks) (willing : d.refusal = none) :
    v.Saved d ∧ (v.leaves d).refusal = none := by
  have dir : ∀ {width bound : Nat} {groups : List (List Task)}, v.batch = some (width, bound, groups) →
      (v.reviewer.engine.runGroups width bound groups (v.opening d)).2.store.2 = d := by
    intro width bound groups made
    rw [(run_warm made apart d).store, (opening_eq v d).1]
    exact Store.sets_ofManager_snd v.now _ _
  have saved : v.Saved d := fun width bound groups made =>
    (Manager.flush_of_willing _ v.now ((dir made).symm ▸ willing)).1
  refine ⟨saved, ?_⟩
  cases made : v.batch with
  | none =>
    rw [(finish_of_refused made d).2]
    exact willing
  | some b =>
    obtain ⟨_, _, _, notices, ends⟩ := finish_of_accepted made d
    rw [leaves, ends, (Reviewer.save_eq _ _).2.2]
    exact (Manager.flush_of_willing _ v.now ((dir made).symm ▸ willing)).2

/-! ### What a visit keeps -/

structure Ended (v : Visit σ) (d : CacheDir) (groups : List (List Task)) (verdicts : List (List Verdict))
    (w : World σ (Manager × CacheDir)) : Prop where
  warm : v.reviewer.engine.Warm groups (v.opening d) w verdicts
  calls : (v.finish d).calls = w.callsSince (v.opening d)
  store : w.store = (Store.ofManager v.now).sets (w.filedSince (v.opening d)) (v.manager d, d)
  leaves : v.leaves d = (w.store.1.flush w.store.2 v.now).2.2
  flushed : (w.store.1.flush w.store.2 v.now).1 = .ok ()

theorem ended_of_accepted {width bound : Nat} {groups : List (List Task)}
    (accepted : v.batch = some (width, bound, groups)) (apart : Task.Apart v.tasks) (saved : v.Saved d) :
    v.Ended d groups (v.reviewer.engine.runGroups width bound groups (v.opening d)).1.1
      (v.reviewer.engine.runGroups width bound groups (v.opening d)).2 := by
  obtain ⟨_, _, _, notices, ends⟩ := finish_of_accepted accepted d
  obtain ⟨store, noCalls⟩ := opening_eq v d
  have warm := run_warm accepted apart d
  refine ⟨warm, ?_, ?_, ?_, saved width bound groups accepted⟩
  · have calls := warm.calls
    rw [noCalls, List.nil_append] at calls
    rw [ends, (Reviewer.save_eq _ _).1]
    exact calls
  · have final := warm.store
    rw [store] at final
    exact final
  · rw [Visit.leaves, ends, (Reviewer.save_eq _ _).2.2]
    rfl

section Keeping

variable {groups : List (List Task)} {verdicts : List (List Verdict)} {w : World σ (Manager × CacheDir)}
  {k : Key} {e : Entry}

theorem manager_works (cached : v.config.cached = true) : (v.manager d).enabled = true :=
  (Manager.start_shape _ d v.now).1.trans cached

theorem view_opening (cached : v.config.cached = true) (has : d.Has k e) (own : e.key = k)
    (trusts : v.Trusts e.created) : v.reviewer.engine.store.view (v.opening d).store k = some e.verdict := by
  rw [(opening_eq v d).1]
  exact Store.view_ofManager (manager_works cached) (Manager.get?_start cached has trusts) own

/-- What the manager has in the end is in the directory, if something was filed or it was there before. -/
theorem Ended.has (ended : v.Ended d groups verdicts w) (cached : v.config.cached = true)
    (entry : w.store.1.entries.get? k = some e) (trusts : v.Trusts e.created)
    (pending : w.filedSince (v.opening d) ≠ [] ∨ d.Has k e) : (v.leaves d).Has k e := by
  have dir : w.store.2 = d := by
    rw [ended.store]
    exact Store.sets_ofManager_snd v.now _ _
  obtain ⟨enabled, maxAge, dirty⟩ :=
    Store.sets_ofManager_shape v.now (w.filedSince (v.opening d)) (manager_works cached) d
  rw [← ended.store] at enabled maxAge dirty
  rw [ended.leaves]
  apply Manager.flush_has enabled ended.flushed entry
  · intro age limit
    rw [maxAge, manager, (Manager.start_shape _ d v.now).2] at limit
    exact trusts age limit
  · rcases pending with filed | before
    · exact Or.inl (dirty (Or.inl filed))
    · exact Or.inr (dir.symm ▸ before)

theorem Ended.has_accepted (ended : v.Ended d groups verdicts w) (cached : v.config.cached = true) {call : Call}
    (made : call ∈ (v.finish d).calls) {completion : Completion} (brought : call.outcome = .ok completion)
    {path rule : String} {findings : List Finding} (read : readCompletion completion.text path rule = .ok findings) :
    ∃ u path' rule', (v.leaves d).Has call.key { key := call.key, verdict := u, created := v.now } ∧
      readCompletion completion.text path' rule' = .ok u.findings ∧ u.failures = [] := by
  rw [ended.calls] at made
  obtain ⟨u, path', rule', filed, reads, judged⟩ := ended.warm.accepted call made completion brought path rule findings read
  refine ⟨u, path', rule', ended.has cached ?_ ?_ (Or.inl (List.ne_nil_of_mem filed)), reads, judged⟩
  · rw [ended.store]
    exact Store.get?_sets_of_once _ (manager_works cached) d (ended.warm.once _ filed)
  · intro age _
    rw [Nat.sub_self]
    exact Nat.zero_le age

theorem Ended.has_kept (ended : v.Ended d groups verdicts w) (cached : v.config.cached = true) (has : d.Has k e)
    (own : e.key = k) (trusts : v.Trusts e.created) : (v.leaves d).Has k e := by
  have absent : ∀ p ∈ w.filedSince (v.opening d), p.1 ≠ k := by
    intro p filed same
    have nothing := ended.warm.unfiled p filed
    rw [same, view_opening cached has own trusts] at nothing
    exact absurd nothing (by simp)
  refine ended.has cached ?_ trusts (Or.inr has)
  rw [ended.store, Store.get?_sets_of_absent _ (manager_works cached) d absent]
  exact Manager.get?_start cached has trusts

theorem Ended.quiet (ended : v.Ended d groups verdicts w) {u : Verdict}
    (view : v.reviewer.engine.store.view (v.opening d).store k = some u) : ∀ call ∈ (v.finish d).calls, call.key ≠ k := by
  intro call made same
  rw [ended.calls] at made
  have nothing := ended.warm.missed call made
  rw [same, view] at nothing
  exact absurd nothing (by simp)

theorem served_of_view (warm : v.reviewer.engine.Warm groups (v.opening d) w verdicts) {u : Verdict}
    (view : v.reviewer.engine.store.view (v.opening d).store k = some u) :
    ∀ p ∈ (groups.zip verdicts).flatMap fun g => g.1.zip g.2, p.1.key = k → p.2 = u.servedTo p.1 := by
  rintro ⟨task, answer⟩ member same
  obtain ⟨⟨tasks, vs⟩, listed, paired⟩ := List.mem_flatMap.mp member
  obtain ⟨i, here⟩ := List.mem_iff_getElem?.mp listed
  obtain ⟨j, there⟩ := List.mem_iff_getElem?.mp paired
  obtain ⟨group, verdicts⟩ := List.getElem?_zip_eq_some.mp here
  obtain ⟨place, verdict⟩ := List.getElem?_zip_eq_some.mp there
  obtain ⟨vs', is, _, served⟩ := warm.served i tasks group
  obtain rfl := Option.some.inj (verdicts.symm.trans is)
  exact Option.some.inj (verdict.symm.trans (served j task u place (same ▸ view)))

variable (cached : v.config.cached = true) (apart : Task.Apart v.tasks) (saved : v.Saved d)

include cached apart saved

/-- What a completion is accepted for is in the directory that the visit leaves. -/
theorem leaves_of_accepted {call : Call} (made : call ∈ (v.finish d).calls) {completion : Completion}
    (brought : call.outcome = .ok completion) {path rule : String} {findings : List Finding}
    (read : readCompletion completion.text path rule = .ok findings) :
    ∃ u path' rule', (v.leaves d).Has call.key { key := call.key, verdict := u, created := v.now } ∧
      readCompletion completion.text path' rule' = .ok u.findings ∧ u.failures = [] := by
  cases batched : v.batch with
  | none =>
    rw [(finish_of_refused batched d).1] at made
    exact absurd made (by simp)
  | some b => exact (ended_of_accepted batched apart saved).has_accepted cached made brought read

/-- What a directory holds is neither asked for nor lost, and tasks are answered with it. -/
theorem leaves_of_has (has : d.Has k e) (own : e.key = k) (trusts : v.Trusts e.created) :
    (∀ call ∈ (v.finish d).calls, call.key ≠ k) ∧
      (∀ p ∈ v.answers d, p.1.key = k → p.2 = e.verdict.servedTo p.1) ∧ (v.leaves d).Has k e := by
  cases batched : v.batch with
  | none =>
    obtain ⟨noCalls, same⟩ := finish_of_refused batched d
    rw [noCalls, answers, batched, same]
    exact ⟨by simp, by simp, has⟩
  | some b =>
    have ended := ended_of_accepted batched apart saved
    have view := view_opening cached has own trusts
    refine ⟨ended.quiet view, ?_, ended.has_kept cached has own trusts⟩
    rw [answers, batched]
    exact served_of_view ended.warm view

end Keeping

end Visit

end PolicyLint
