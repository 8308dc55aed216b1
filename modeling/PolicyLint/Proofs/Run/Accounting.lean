import Mathlib.Data.List.Basic
import PolicyLint.Proofs.Run.Verdicts

/-!
# The accounts of a run

Every task of a run comes to one verdict, which says whether the task was served, checked or neither. The
calls of the judge and the tokens of its completions are billed to the tasks that are checked, all of
them and each of them once.
-/

namespace PolicyLint

namespace Engine

variable {σ τ : Type} {e : Engine σ τ} {stopped : Nat → Prop}

/-! ### Nothing is billed twice -/

variable {M : Type} [Add M] [OfNat M 0] [Addable M]

theorem total_verdictOf {count : Verdict → M} (served : ∀ v t, count (Verdict.servedTo v t) = 0)
    (shared : ∀ v t, count (Verdict.sharedWith v t) = 0) (results : Key → Verdict) (slots : List Slot) :
    total count (slots.map (verdictOf results)) =
      total (fun job => count (results job.key)) (Group.jobsOf slots) := by
  induction slots with
  | nil => rfl
  | cons s rest ih =>
    rw [List.map_cons, total, ih]
    cases origin : s.origin with
    | served v =>
      rw [jobsOf_cons_of_other (by simp [origin]), verdictOf, origin]
      dsimp only
      rw [served, zero_plus]
    | checked => rw [jobsOf_cons_of_checked origin, verdictOf, origin, total]
    | shared =>
      rw [jobsOf_cons_of_other (by simp [origin]), verdictOf, origin]
      dsimp only
      rw [shared, zero_plus]

section Billing

variable {tasks : List Task} {w w' : World σ τ} {results : Key → Verdict} {verdicts : List Verdict}

theorem Ran.billed (ran : e.Ran stopped tasks w w' results verdicts) {count : Verdict → M} {cost : Call → M}
    (served : ∀ v t, count (Verdict.servedTo v t) = 0) (shared : ∀ v t, count (Verdict.sharedWith v t) = 0)
    (bills : ∀ {calls : List Call} {v : Verdict}, Bills calls v → count v = total cost calls) :
    total count verdicts = total cost (w'.callsSince w) := by
  have own : ∀ job ∈ Group.jobsOf (e.slotsFrom tasks w.store),
      count (results job.key) = total cost (Call.forKey job.key (w'.callsSince w)) :=
    fun job member => bills (ran.finished job member).1.bills
  have covered : ∀ call ∈ w'.callsSince w, call.key ∈ (Group.jobsOf (e.slotsFrom tasks w.store)).map Job.key := by
    intro call member
    obtain ⟨job, known, asks⟩ := ran.asks call member
    rw [asks.2.1]
    exact List.mem_map_of_mem known
  have distinct : ((Group.jobsOf (e.slotsFrom tasks w.store)).map Job.key).Nodup := (jobsOf_slotsOf_nodup [] tasks _).1
  rw [ran.verdicts, total_verdictOf served shared, total_congr own, ← total_parts cost Call.key distinct covered,
    total_map]
  rfl

theorem Ran.calls_billed (ran : e.Ran stopped tasks w w' results verdicts) :
    (Verdict.fold verdicts).calls = (w'.callsSince w).length := by
  rw [Verdict.count_fold verdicts Verdict.calls (fun _ _ => rfl) rfl, ← total_one]
  exact ran.billed (fun v t => (v.free_servedTo t).calls) (fun v t => (v.free_sharedWith t).calls)
    fun bills => by rw [bills.calls, total_one]

end Billing

/-! ### The verdict of each task -/

/-- What the verdict of the task at a place accounts for, the answers of the store and the verdicts of all
tasks being given. -/
structure Accounts (tasks : List Task) (found : List (Option Verdict)) (verdicts : List Verdict) (i : Nat)
    (task : Task) (v : Verdict) : Prop where
  checks : v.checks = 1
  speaks : v.SpeaksOf task.file.path task.rule.name
  once : v.hits + v.misses ≤ 1
  hit : v.hits = 1 →
    v.calls = 0 ∧ v.retries = 0 ∧ v.promptTokens = 0 ∧ v.completionTokens = 0 ∧ v.latency = 0
  miss : v.misses = 1 ↔ FirstMissed tasks found i task
  neither : v.hits = 0 → v.misses = 0 →
    ∃ (j : Nat) (t : Task) (u : Verdict), tasks[j]? = some t ∧ verdicts[j]? = some u ∧ t.key = task.key ∧
      u.misses = 1 ∧ u.failures ≠ []
  unserved : found[i]? = some none → v.failures = [] ∨ ∃ f, v.failures = [f] ∧ v.findings = []

section Places

variable {tasks : List Task} {w w' : World σ τ} {results : Key → Verdict} {verdicts : List Verdict}

end Places

end Engine

end PolicyLint
