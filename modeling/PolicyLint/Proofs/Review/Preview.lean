import Mathlib.Data.List.Nodup
import PolicyLint.Proofs.Cache.Manager
import PolicyLint.Proofs.Review.Reference
import PolicyLint.Proofs.Run.DryRun
import PolicyLint.Proofs.Run.Unaborted

/-!
# Previews and reviews

Accepted files and rules make tasks about different places, so what a preview finds in the store is told
apart from what the judge says in a review.
-/

namespace PolicyLint

namespace Reviewer

variable {σ τ : Type}

/-! ### The places of tasks -/

theorem paths_subjects {files : List SourceFile} (distinct : (files.map SourceFile.path).Nodup) (rule : Rule) :
    ((subjects files rule).map SourceFile.path).Nodup := by
  unfold subjects
  split
  · exact distinct
  · split
    · exact List.nodup_nil
    · exact List.nodup_singleton _

theorem places_tasks (r : Reviewer σ τ) (files : List SourceFile) (rules : List Rule) :
    (r.tasks files rules).map Task.place =
      (activeRules rules).flatMap fun rule => ((subjects files rule).map SourceFile.path).map fun path => (path, rule.name) := by
  rw [tasks, Task.ofRules, List.map_flatMap]
  congr 1
  funext rule
  rw [ofRule_eq, List.map_map, List.map_map]
  rfl

theorem nodup_places (r : Reviewer σ τ) {files : List SourceFile} {rules : List Rule}
    (valid : validateInputs files rules = .ok ()) : ((r.tasks files rules).map Task.place).Nodup := by
  obtain ⟨names, paths⟩ := distinct_of_validateInputs valid
  rw [places_tasks, List.nodup_flatMap]
  constructor
  · intro rule _
    exact (paths_subjects paths rule).map fun path path' same => (Prod.mk.inj same).1
  · have active : ((activeRules rules).map Rule.name).Nodup := names.sublist (List.filter_sublist.map _)
    refine (List.pairwise_map.mp active).imp ?_
    intro rule rule' different place here there
    obtain ⟨path, _, rfl⟩ := List.mem_map.mp here
    obtain ⟨path', _, same⟩ := List.mem_map.mp there
    exact different (Prod.mk.inj same).2.symm

/-! ### What a preview does -/

theorem preview_of_valid (r : Reviewer σ τ) {files : List SourceFile} {rules : List Rule}
    (valid : validateInputs files rules = .ok ()) (w : World σ τ) :
    ∃ after, r.preview files rules w =
        (.ok
          { (r.engine.dryRun (r.tasks files rules) (w.noteSkipped rules)).1 with
            cached := (r.engine.dryRun (r.tasks files rules) (w.noteSkipped rules)).1.cached.normalized }, after) ∧
      Engine.Alike w after ∧ after.store = r.engine.store.looked ((r.tasks files rules).map Task.key) w.store := by
  obtain ⟨_, alike, looked⟩ := Engine.lookupAll_eq r.engine (r.tasks files rules) (w.noteSkipped rules)
  refine ⟨_, ?_, alike, looked⟩
  rw [preview, valid]
  rfl

/-! ### What comes true -/

/-- A preview tells what a review is about to do when the store answers both alike: how many tasks there
are, which of them it does not serve, how many keys it misses, and what it reports for the tasks that it
serves. It only looks up keys, which changes nothing in a manager and its directory. -/
theorem preview_foretells {files : List SourceFile} {rules : List Rule} (valid : validateInputs files rules = .ok ()) :
    (∀ (r : Reviewer σ τ) (w w' : World σ τ), 0 < r.concurrency →
      (∀ keys, r.engine.store.answers keys w.store = r.engine.store.answers keys w'.store) →
      ∃ plan after v elapsed w'' made slots results,
        r.preview files rules w = (.ok plan, after) ∧ r.review files rules w' = (.ok (v, elapsed), w'') ∧
        w''.calls = w'.calls ++ made ∧ (r.engine.assign [] (r.tasks files rules) (w'.noteSkipped rules)).1 = slots ∧
        v = (Verdict.fold (slots.map (Engine.verdictOf results))).normalized ∧ Engine.Foretells plan slots v ∧
        made.length ≤ plan.calls * r.engine.retry.attempts ∧
        (w''.isAborted elapsed = false →
          plan.calls ≤ made.length ∧ (r.engine.retry.attempts = 1 → made.length = plan.calls)) ∧
        Engine.Alike w after ∧ after.store = r.engine.store.looked ((r.tasks files rules).map Task.key) w.store ∧
        (r.engine.store.Steady w.store →
          ∀ keys, r.engine.store.answers keys after.store = r.engine.store.answers keys w.store)) ∧
      ∀ (r : Reviewer σ (Manager × CacheDir)) (now : Nat) (w : World σ (Manager × CacheDir)),
        r.engine.store = .ofManager now → (r.preview files rules w).2.store = w.store := by
  constructor
  · intro r w w' positive agree
    obtain ⟨verdicts, elapsed, ended, results, ran', ran, _⟩ :=
      Engine.run_ran r.engine (r.tasks files rules) positive (Engine.stops_always (w'.noteSkipped rules))
    obtain ⟨after, planned, alike, looked⟩ := r.preview_of_valid valid w
    have reviewed := review_of_valid valid ran'
    have same : r.engine.found (r.tasks files rules) (w.noteSkipped rules).store =
        r.engine.found (r.tasks files rules) (w'.noteSkipped rules).store := by
      rw [Engine.found, Engine.found]
      exact congrArg _ (agree _)
    have foretold := ran.foretold (r.nodup_places valid) same
    have jobs : (r.engine.dryRun (r.tasks files rules) (w.noteSkipped rules)).1.calls =
        (Group.jobsOf (r.engine.slotsFrom (r.tasks files rules) (w'.noteSkipped rules).store)).length :=
      foretold.calls.trans ran.misses
    have most := ran.length_calls_le
    have calls : (r.save ended).calls = w'.calls ++ ended.callsSince (w'.noteSkipped rules) := (save_eq r ended).1.trans ran.calls
    refine ⟨_, after, _, elapsed, _, _, _, results, planned, reviewed, calls, Engine.assign_slots _ _ _ _, ?_, foretold.normalized,
      ?_, ?_, alike, looked, ?_⟩
    · rw [ran.verdicts]
      rfl
    · rw [← jobs] at most
      exact most
    · intro going
      rw [isAborted_save] at going
      have asked := Engine.run_asks r.engine positive ran' going
      rw [ran.calls, List.length_append, ← jobs] at asked
      rw [← jobs] at most
      refine ⟨Nat.le_of_add_le_add_left asked, ?_⟩
      intro once
      rw [once, Nat.mul_one] at most
      exact Nat.le_antisymm most (Nat.le_of_add_le_add_left asked)
    · intro steady keys
      rw [looked]
      exact steady.looked _ keys
  · intro r now w manager
    obtain ⟨after, planned, _, looked⟩ := r.preview_of_valid valid w
    have still : ∀ keys, (Store.ofManager now).looked keys w.store = w.store := by
      intro keys
      induction keys with
      | nil => rfl
      | cons k rest ih => exact ih
    rw [planned, ← still ((r.tasks files rules).map Task.key), ← manager]
    exact looked

theorem review_going {r : Reviewer σ τ} (calm : r.engine.judge.Calm) {files : List SourceFile} {rules : List Rule}
    {w w' : World σ τ} (going : w.aborted = false) (unlimited : w.abortAt = none) {v : Verdict} {elapsed : Nat}
    (reviewed : r.review files rules w = (.ok (v, elapsed), w')) : w'.isAborted elapsed = false := by
  obtain ⟨verdicts, w'', ended, _, rfl⟩ := review_eq_ok reviewed
  obtain ⟨_, _, stops⟩ := Engine.ran_of_run (w := w.noteSkipped rules) (Engine.stops_never calm going unlimited) ended
  rw [isAborted_save]
  exact Bool.eq_false_iff.mpr (stops _ _ (Nat.le_refl _))

/-- The manager holds what was filed for the first file, and the other two files have one content. -/
theorem preview_foretells_of_manager :
    let hit : Finding := { path := "b.ts", rule := "no-let", message := "let" }
    let known : Task := { file := ⟨"b.ts", "let b;"⟩, rule := { name := "no-let", description := "Use const." }, model := {} }
    let files : List SourceFile := [⟨"b.ts", "let b;"⟩, ⟨"c.ts", "let c;"⟩, ⟨"d.ts", "let c;"⟩]
    let rules : List Rule := [{ name := "no-let", description := "Use const." }]
    let r : Reviewer Unit (Manager × CacheDir) :=
      { engine := { judge := .constant { outcome := .error (.transient "busy") }, store := .ofManager 0, retry := .never } }
    let w : World Unit (Manager × CacheDir) :=
      { judge := (), store := (({} : Manager).set known.key { findings := [{ hit with path := "a.ts" }] } 0, {}) }
    ∃ plan after v elapsed w'' made, r.preview files rules w = (.ok plan, after) ∧
      r.review files rules w = (.ok (v, elapsed), w'') ∧ w''.calls = made ∧
      plan = { cached := { findings := [hit], checks := 1, hits := 1 }
               pending := [⟨"c.ts", "no-let"⟩, ⟨"d.ts", "no-let"⟩], calls := 1 } ∧
      v.checks = 3 ∧ v.misses = 1 ∧ made.length = 1 ∧ v.findings.count hit = 1 ∧ after.store = w.store := by
  intro hit known files rules r w
  let other : Task := { known with file := ⟨"c.ts", "let c;"⟩ }
  let twin : Task := { known with file := ⟨"d.ts", "let c;"⟩ }
  have valid : validateInputs files rules = .ok () := validateInputs_ok (by simp [rules]) (by decide) (by decide) (by decide)
  have held : r.engine.store.view w.store known.key = some { findings := [{ hit with path := "a.ts" }] } :=
    Store.view_set rfl {} known.key _ 0
  have missing : r.engine.store.view w.store other.key = none := Store.view_set_other Task.key_ne_of_content {} _
  let first : Slot := { task := known, key := known.key, origin := .served { findings := [{ hit with path := "a.ts" }] } }
  let second : Slot := { task := other, key := other.key, origin := .checked }
  let third : Slot := { task := twin, key := other.key, origin := .shared }
  have same : twin.key = other.key := rfl
  have slots : r.engine.slotsFrom [known, other, twin] w.store = [first, second, third] := by
    rw [Engine.slotsFrom, Engine.found_of_lawful (Store.ofManager_lawful 0), List.map_cons, List.map_cons, List.map_cons,
      same, held, missing]
    simp [Engine.slotsOf, same, first, second, third]
  obtain ⟨reviews, managers⟩ := @preview_foretells Unit (Manager × CacheDir) files rules valid
  obtain ⟨plan, after, v, elapsed, w'', made, _, _, planned, reviewed, calls, _, _, foretells, _, asked, _⟩ :=
    reviews r w w (by decide) fun _ => rfl
  have still := managers r 0 w rfl
  rw [planned] at still
  obtain rfl : plan = { cached := { findings := [hit], checks := 1, hits := 1 }
                        pending := [⟨"c.ts", "no-let"⟩, ⟨"d.ts", "no-let"⟩], calls := 1 } := by
    obtain ⟨_, planned', _⟩ := r.preview_of_valid valid w
    have slots' : r.engine.slotsFrom (r.tasks files rules) (w.noteSkipped rules).store = _ := slots
    rw [Except.ok.inj (Prod.mk.inj (planned.symm.trans planned')).1, Engine.dryRun_eq, slots']
    have hits : [first, second, third].filterMap Slot.answer? = [{ findings := [hit], checks := 1, hits := 1 }] := rfl
    have misses : [first, second, third].filter Slot.isUnserved = [second, third] := rfl
    have alone : [hit].mergeSort (fun a b => placeLe a.path a.rule b.path b.rule) = [hit] := List.mergeSort_singleton _
    have none : ([] : List Failure).mergeSort (fun a b => placeLe a.path a.rule b.path b.rule) = [] := List.mergeSort_nil
    have pending : [second, third].map Slot.pending = [⟨"c.ts", "no-let"⟩, ⟨"d.ts", "no-let"⟩] := rfl
    rw [hits, misses, pending]
    simp [Verdict.fold, Verdict.merge, Verdict.normalized, alone, none, second, third, same, List.eraseDups_cons]
  have unaborted : w''.isAborted elapsed = false := review_going (fun _ _ _ => rfl) rfl rfl reviewed
  have once := (asked unaborted).2 rfl
  refine ⟨_, after, v, elapsed, w'', made, planned, reviewed, calls, rfl, foretells.checks.symm, foretells.calls.symm,
    once, foretells.findings hit List.mem_cons_self, still⟩

end Reviewer

end PolicyLint
