import PolicyLint.Evaluation.Basic
import PolicyLint.Proofs.Total

/-!
# Scores that are added up

Every count of a sum of scores is the sum of the counts. A verdict scores as one file, which is classified or
failed.
-/

namespace PolicyLint

namespace Score

variable (scores : List Score)

theorem merge_assoc (a b c : Score) : (a.merge b).merge c = a.merge (b.merge c) := by
  simp only [merge, Nat.add_assoc]

theorem foldl_merge (s : Score) : scores.foldl merge s = s.merge (fold scores) := by
  have empty : ∀ u : Score, ({} : Score).merge u = u ∧ u.merge {} = u := by
    intro u
    simp [merge]
  induction scores generalizing s with
  | nil => exact (empty s).2.symm
  | cons u rest ih => rw [fold, List.foldl_cons, ih, List.foldl_cons, ih, (empty u).1, merge_assoc]

theorem fold_cons (s : Score) : fold (s :: scores) = s.merge (fold scores) := by
  rw [fold, List.foldl_cons, foldl_merge]
  simp [merge]

theorem fold_append (others : List Score) : fold (scores ++ others) = (fold scores).merge (fold others) := by
  unfold fold
  rw [List.foldl_append]
  exact foldl_merge others _

structure Adds (count : Score → Nat) : Prop where
  merge : ∀ a b, count (merge a b) = count a + count b
  none : count {} = 0

theorem Adds.fold {count : Score → Nat} (adds : Adds count) : count (fold scores) = total count scores := by
  induction scores with
  | nil => exact adds.none
  | cons first rest ih => rw [fold_cons, adds.merge, ih, total]

theorem Adds.add {first second : Score → Nat} (adds : Adds first) (adds' : Adds second) :
    Adds fun s => first s + second s where
  merge a b := by
    rw [adds.merge, adds'.merge]
    omega
  none := by rw [adds.none, adds'.none]

theorem adds_rules : Adds rules := ⟨fun _ _ => rfl, rfl⟩

theorem adds_files : Adds files := ⟨fun _ _ => rfl, rfl⟩

theorem adds_truePositives : Adds truePositives := ⟨fun _ _ => rfl, rfl⟩

theorem adds_falsePositives : Adds falsePositives := ⟨fun _ _ => rfl, rfl⟩

theorem adds_trueNegatives : Adds trueNegatives := ⟨fun _ _ => rfl, rfl⟩

theorem adds_falseNegatives : Adds falseNegatives := ⟨fun _ _ => rfl, rfl⟩

theorem adds_failures : Adds failures := ⟨fun _ _ => rfl, rfl⟩

/-- Sums are taken count by count. -/
theorem fold_eq : fold scores =
    { rules := total rules scores, files := total files scores, truePositives := total truePositives scores
      falsePositives := total falsePositives scores, trueNegatives := total trueNegatives scores
      falseNegatives := total falseNegatives scores, failures := total failures scores } := by
  rw [← adds_rules.fold, ← adds_files.fold, ← adds_truePositives.fold, ← adds_falsePositives.fold,
    ← adds_trueNegatives.fold, ← adds_falseNegatives.fold, ← adds_failures.fold]

theorem fold_perm {scores others : List Score} (perm : scores.Perm others) : fold scores = fold others := by
  rw [fold_eq, fold_eq, total_perm rules perm, total_perm files perm, total_perm truePositives perm,
    total_perm falsePositives perm, total_perm trueNegatives perm, total_perm falseNegatives perm,
    total_perm failures perm]

/-! ### The score of one verdict -/

/-- The files of a score are those that were classified and those that failed. -/
def Balanced (s : Score) : Prop :=
  s.files = s.truePositives + s.falsePositives + s.trueNegatives + s.falseNegatives + s.failures

theorem Balanced.merge {a b : Score} (first : a.Balanced) (second : b.Balanced) : (a.merge b).Balanced := by
  unfold Balanced at first second ⊢
  simp only [Score.merge]
  omega

theorem balanced_fold {scores : List Score} (each : ∀ s ∈ scores, s.Balanced) : (fold scores).Balanced := by
  induction scores with
  | nil => rfl
  | cons s rest ih =>
    rw [fold_cons]
    exact (each s List.mem_cons_self).merge (ih fun u member => each u (List.mem_cons_of_mem _ member))

variable (label : Label) (v : Verdict)

theorem ofVerdict_one : (ofVerdict label v).rules = 0 ∧ (ofVerdict label v).files = 1 ∧ (ofVerdict label v).Balanced := by
  unfold ofVerdict Balanced
  cases v.hasFailures <;> cases label <;> cases v.isClean <;> exact ⟨rfl, rfl, rfl⟩

theorem failures_ofVerdict : (ofVerdict label v).failures = if v.hasFailures then 1 else 0 := by
  unfold ofVerdict
  cases v.hasFailures <;> cases label <;> cases v.isClean <;> rfl

theorem positives_ofVerdict : (ofVerdict label v).truePositives + (ofVerdict label v).falsePositives =
    if v.hasFailures || v.isClean then 0 else 1 := by
  unfold ofVerdict
  cases v.hasFailures <;> cases label <;> cases v.isClean <;> rfl

/-- Nothing is held against a verdict that is no failure and speaks as the label does. -/
theorem ofVerdict_right :
    (ofVerdict label v).failures + ((ofVerdict label v).falsePositives + (ofVerdict label v).falseNegatives) = 0 ↔
      v.failures = [] ∧ (v.findings = [] ↔ label = .correct) := by
  have failed : v.hasFailures = false ↔ v.failures = [] := by
    rw [Verdict.hasFailures, Bool.not_eq_false', List.isEmpty_iff]
  have clean : v.isClean = true ↔ v.findings = [] := List.isEmpty_iff
  rw [← failed, ← clean]
  unfold ofVerdict
  cases v.hasFailures <;> cases label <;> cases v.isClean <;> decide

end Score

end PolicyLint
