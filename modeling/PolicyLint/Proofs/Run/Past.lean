import PolicyLint.Proofs.Run.Earned
import PolicyLint.Proofs.Run.Keyed

/-!
# Runs of the past

What a store holds was filed by runs, each with an engine of its own. Whatever it hands out of that is what a
completion said that was brought in one of these runs.
-/

namespace PolicyLint

structure PastRun where
  {σ τ : Type}
  engine : Engine σ τ
  groups : List (List Task)
  width : Nat
  bound : Nat
  world : World σ τ
  wide : 0 < width
  room : 0 < bound

namespace PastRun

variable (run : PastRun)

def ending : World run.σ run.τ := (run.engine.runGroups run.width run.bound run.groups run.world).2

def calls : List Call := run.ending.callsSince run.world

def filed : List (Key × Verdict) := run.ending.filedSince run.world

end PastRun

def FiledIn (past : PastRun → Prop) (k : Key) (v : Verdict) : Prop := ∃ run, past run ∧ (k, v) ∈ run.filed

/-- A completion that a judge brought when it was asked about the key, by one of these calls or in one of these
runs. -/
inductive Reported (past : PastRun → Prop) (made : List Call) (key : Key) (completion : Completion) : Prop where
  | now {call : Call} (member : call ∈ made) (own : call.key = key) (brought : call.outcome = .ok completion)
  | before {run : PastRun} (known : past run) {call : Call} (member : call ∈ run.calls) (own : call.key = key)
      (brought : call.outcome = .ok completion)

variable {past : PastRun → Prop} {k : Key} {v : Verdict}

theorem failures_of_filedIn (filed : FiledIn past k v) : v.failures = [] := by
  obtain ⟨run, _, member⟩ := filed
  exact (run.engine.runGroups_earned run.width run.bound run.groups run.world _ member).judged

/-- What was filed is what a completion says that was reported for the key, about whatever task has that key. -/
theorem reported_of_filedIn (filed : FiledIn past k v) (made : List Call) (path rule : String) :
    ∃ completion, Reported past made k completion ∧
      readCompletion completion.text path rule = .ok (v.findings.map fun f => { f with path, rule }) := by
  obtain ⟨run, known, member⟩ := filed
  obtain ⟨task, call, completion, _, _, asked, own, _, _, brought, _, read⟩ :=
    (run.engine.runGroups_earned run.width run.bound run.groups run.world _ member).source
  refine ⟨completion, .before known asked own brought, ?_⟩
  rw [readCompletion_retarget _ task.file.path task.rule.name, read]
  rfl

/-! ### Stores that runs leave behind -/

namespace Store.Faithful

variable {τ : Type} {s : Store τ} {t : τ} {written : Key → Verdict → Prop}

theorem looked (faithful : s.Faithful written t) (k : Key) : s.Faithful written (s.get t k).2 := by
  refine (faithful.later [.look k]).mono fun k v known => ?_
  rcases known with before | since
  · exact before
  · exact absurd since (by simp [StoreUse.filed])

theorem saved (faithful : s.Faithful written t) : s.Faithful written (s.flush t).2 := by
  refine (faithful.later [.save]).mono fun k v known => ?_
  rcases known with before | since
  · exact before
  · exact absurd since (by simp [StoreUse.filed])

theorem holds (faithful : s.Faithful written t) : s.Holds written t := by
  intro keys i k entry here answered own
  induction keys generalizing t i with
  | nil => exact absurd here (by simp)
  | cons first rest ih =>
    cases i with
    | zero =>
      obtain rfl := Option.some.inj here
      rcases faithful [] first entry (Option.some.inj answered) own with before | since
      · exact before
      · exact absurd since (by simp)
    | succ i => exact ih (faithful.looked first) i here answered

end Store.Faithful

/-- A run leaves the store with what it had and with what the run has filed. -/
theorem PastRun.faithful (run : PastRun) (faithful : run.engine.store.Faithful (FiledIn past) run.world.store) :
    run.engine.store.Faithful (FiledIn fun other => past other ∨ other = run) run.ending.store := by
  obtain ⟨_, sourced⟩ :=
    run.engine.runGroups_sourced run.groups run.wide run.room (Engine.stops_always run.world)
  obtain ⟨made, store, filed⟩ := sourced.store
  show run.engine.store.Faithful _ (run.engine.runGroups run.width run.bound run.groups run.world).2.store
  rw [store]
  refine (faithful.later made).mono fun k v known => ?_
  rcases known with ⟨other, before, member⟩ | since
  · exact ⟨other, Or.inl before, member⟩
  · rw [filed] at since
    exact ⟨run, Or.inr rfl, since⟩

end PolicyLint
