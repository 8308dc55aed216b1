import PolicyLint.Proofs.Total
import PolicyLint.Prompt.Completion
import PolicyLint.Run.Task

/-!
# Verdicts for other tasks

A verdict that answers another task costs nothing and speaks of that task alone. What a completion says
about one task is, pointed at another one, what it says about that one.
-/

namespace PolicyLint

def Verdict.SpeaksOf (v : Verdict) (path rule : String) : Prop :=
  (∀ f ∈ v.findings, f.path = path ∧ f.rule = rule) ∧ ∀ f ∈ v.failures, f.path = path ∧ f.rule = rule

namespace Verdict

theorem speaksOf_retarget (v : Verdict) (path rule : String) : (v.retarget path rule).SpeaksOf path rule := by
  constructor
  · intro f member
    obtain ⟨f', _, rfl⟩ := List.mem_map.mp member
    exact ⟨rfl, rfl⟩
  · intro f member
    obtain ⟨f', _, rfl⟩ := List.mem_map.mp member
    exact ⟨rfl, rfl⟩

theorem speaksOf_servedTo (v : Verdict) (t : Task) : (v.servedTo t).SpeaksOf t.file.path t.rule.name :=
  speaksOf_retarget v.asHit _ _

theorem sharedWith_of_failures {v : Verdict} (some : v.failures ≠ []) (t : Task) :
    v.sharedWith t = ({ failures := v.failures, checks := 1 } : Verdict).retarget t.file.path t.rule.name := by
  rw [sharedWith, if_pos]
  simpa [hasFailures] using some

theorem sharedWith_of_no_failures {v : Verdict} (none : v.failures = []) (t : Task) :
    v.sharedWith t = v.servedTo t := by
  rw [sharedWith, if_neg]
  simp [hasFailures, none]

theorem speaksOf_sharedWith (v : Verdict) (t : Task) : (v.sharedWith t).SpeaksOf t.file.path t.rule.name := by
  by_cases failed : v.failures = []
  · rw [sharedWith_of_no_failures failed]
    exact speaksOf_servedTo v t
  · rw [sharedWith_of_failures failed]
    exact speaksOf_retarget _ _ _

structure Free (v : Verdict) : Prop where
  checks : v.checks = 1
  misses : v.misses = 0
  calls : v.calls = 0
  retries : v.retries = 0
  promptTokens : v.promptTokens = 0
  completionTokens : v.completionTokens = 0
  latency : v.latency = 0

theorem free_servedTo (v : Verdict) (t : Task) : (v.servedTo t).Free := ⟨rfl, rfl, rfl, rfl, rfl, rfl, rfl⟩

theorem free_sharedWith (v : Verdict) (t : Task) : (v.sharedWith t).Free := by
  by_cases failed : v.failures = []
  · rw [sharedWith_of_no_failures failed]
    exact free_servedTo v t
  · rw [sharedWith_of_failures failed]
    exact ⟨rfl, rfl, rfl, rfl, rfl, rfl, rfl⟩

/-! ### Verdicts that are put together -/

section Fold

variable (verdicts : List Verdict)

theorem merge_assoc (a b c : Verdict) : (a.merge b).merge c = a.merge (b.merge c) := by
  simp only [merge, List.append_assoc, Nat.add_assoc, UInt64.add_assoc]

theorem foldl_merge (v : Verdict) : verdicts.foldl merge v = v.merge (fold verdicts) := by
  have empty : ∀ u : Verdict, ({} : Verdict).merge u = u ∧ u.merge {} = u := by
    intro u
    simp [merge]
  induction verdicts generalizing v with
  | nil => exact (empty v).2.symm
  | cons u rest ih => rw [fold, List.foldl_cons, ih, List.foldl_cons, ih, (empty u).1, merge_assoc]

theorem fold_append (others : List Verdict) : fold (verdicts ++ others) = (fold verdicts).merge (fold others) := by
  unfold fold
  rw [List.foldl_append]
  exact foldl_merge others _

theorem fold_cons (v : Verdict) : fold (v :: verdicts) = v.merge (fold verdicts) := by
  rw [fold, List.foldl_cons, foldl_merge]
  simp [merge]

/-- It does not matter whether verdicts are put together group by group. -/
theorem fold_map_fold (groups : List (List Verdict)) : fold (groups.map fold) = fold groups.flatten := by
  induction groups with
  | nil => rfl
  | cons verdicts rest ih => rw [List.map_cons, fold_cons, ih, List.flatten_cons, fold_append]

theorem count_fold {M : Type} [Add M] [OfNat M 0] (count : Verdict → M) (adds : ∀ a b, count (merge a b) = count a + count b)
    (none : count {} = 0) : count (fold verdicts) = total count verdicts := by
  induction verdicts with
  | nil => exact none
  | cons first rest ih => rw [fold_cons, adds, ih, total]

theorem findings_fold : (fold verdicts).findings = verdicts.flatMap findings := by
  induction verdicts with
  | nil => rfl
  | cons first rest ih => rw [fold_cons, merge, ih, List.flatMap_cons]

theorem failures_fold : (fold verdicts).failures = verdicts.flatMap failures := by
  induction verdicts with
  | nil => rfl
  | cons first rest ih => rw [fold_cons, merge, ih, List.flatMap_cons]

end Fold

end Verdict

/-! ### Completions -/

namespace Violation

theorem toFinding_path (path rule : String) (v : Violation) : (v.toFinding path rule).path = path := by
  unfold toFinding
  cases v.line <;> rfl

theorem toFinding_rule (path rule : String) (v : Violation) : (v.toFinding path rule).rule = rule := by
  unfold toFinding
  cases v.line <;> rfl

theorem toFinding_retarget (path rule path' rule' : String) (v : Violation) :
    { v.toFinding path rule with path := path', rule := rule' } = v.toFinding path' rule' := by
  unfold toFinding
  cases v.line <;> rfl

end Violation

theorem speaksOf_readCompletion {text path rule : String} {findings : List Finding}
    (read : readCompletion text path rule = .ok findings) : ∀ f ∈ findings, f.path = path ∧ f.rule = rule := by
  unfold readCompletion at read
  dsimp only at read
  split at read
  · rename_i violations _
    obtain rfl := Except.ok.inj read
    intro f member
    obtain ⟨v, _, rfl⟩ := List.mem_map.mp member
    exact ⟨v.toFinding_path path rule, v.toFinding_rule path rule⟩
  · exact absurd read (by simp)

/-- What a completion says of one task, said of another one. -/
theorem readCompletion_retarget (text path rule path' rule' : String) :
    readCompletion text path' rule' =
      (readCompletion text path rule).map fun findings =>
        findings.map fun f => { f with path := path', rule := rule' } := by
  unfold readCompletion
  dsimp only
  split
  · rw [Except.map, List.map_map]
    have same : Violation.toFinding path' rule' =
        (fun f : Finding => { f with path := path', rule := rule' }) ∘ Violation.toFinding path rule := by
      funext v
      exact (v.toFinding_retarget path rule path' rule').symm
    rw [same]
  · rfl

end PolicyLint
