import PolicyLint.Proofs.Sorting
import PolicyLint.Proofs.Verdict

/-!
# Normal forms of merged verdicts

Verdicts that share no file and rule can be merged in any order and with any brackets: brought into the order of
files and rules, the result is the same, and what each of them says of a file and a rule stands together in it.
-/

namespace PolicyLint

def placeOrder (a b : String × String) : Bool := placeLe a.1 a.2 b.1 b.2

theorem placeOrder_iff {a b : String × String} : placeOrder a b = true ↔ a.1 < b.1 ∨ a.1 = b.1 ∧ a.2 ≤ b.2 := by
  rw [placeOrder, placeLe, Bool.or_eq_true, Bool.and_eq_true, decide_eq_true_eq, decide_eq_true_eq, decide_eq_true_eq]

theorem keyOrder_placeOrder : KeyOrder placeOrder where
  trans := by
    intro a b c first second
    rw [placeOrder_iff] at first second ⊢
    rcases first with less | ⟨same, le⟩ <;> rcases second with less' | ⟨same', le'⟩
    · exact Or.inl (String.lt_trans less less')
    · exact Or.inl (same' ▸ less)
    · exact Or.inl (same ▸ less')
    · exact Or.inr ⟨same.trans same', String.le_trans le le'⟩
  total := by
    intro a b
    rw [Bool.or_eq_true, placeOrder_iff, placeOrder_iff]
    by_cases less : a.1 < b.1
    · exact Or.inl (Or.inl less)
    · by_cases less' : b.1 < a.1
      · exact Or.inr (Or.inl less')
      · have same := String.le_antisymm (String.not_lt.mp less') (String.not_lt.mp less)
        exact (String.le_total a.2 b.2).imp (fun le => Or.inr ⟨same, le⟩) fun le => Or.inr ⟨same.symm, le⟩
  antisymm := by
    intro a b first second
    rw [placeOrder_iff] at first second
    rcases first with less | ⟨same, le⟩
    · rcases second with less' | ⟨same', _⟩
      · exact absurd less' (String.lt_asymm less)
      · exact absurd (same' ▸ less) (String.lt_irrefl _)
    · rcases second with less' | ⟨_, le'⟩
      · exact absurd (same ▸ less') (String.lt_irrefl _)
      · exact Prod.ext same (String.le_antisymm le le')

def Finding.place (f : Finding) : String × String := (f.path, f.rule)

def Failure.place (f : Failure) : String × String := (f.path, f.rule)

namespace Verdict

structure Apart (a b : Verdict) : Prop where
  findings : ∀ f ∈ a.findings, ∀ g ∈ b.findings, f.place ≠ g.place
  failures : ∀ f ∈ a.failures, ∀ g ∈ b.failures, f.place ≠ g.place

/-- A way to merge verdicts, some of which may be empty. -/
inductive Merging where
  | none
  | one (v : Verdict)
  | both (first second : Merging)

namespace Merging

def verdict : Merging → Verdict
  | none => {}
  | one v => v
  | both first second => first.verdict.merge second.verdict

def leaves : Merging → List Verdict
  | none => []
  | one v => [v]
  | both first second => first.leaves ++ second.leaves

theorem verdict_eq_fold (m : Merging) : m.verdict = fold m.leaves := by
  induction m with
  | none => rfl
  | one v =>
    rw [leaves, fold_cons]
    simp [verdict, fold, merge]
  | both first second ih ih' => rw [verdict, leaves, fold_append, ih, ih']

end Merging

/-- What the verdict says of each place stands together in the other one, which says nothing else of that place. -/
structure KeptIn (v whole : Verdict) : Prop where
  findings : ∀ place, withKey Finding.place place v.findings ≠ [] →
    StandsAs Finding.place place (withKey Finding.place place v.findings) whole.findings
  failures : ∀ place, withKey Failure.place place v.failures ≠ [] →
    StandsAs Failure.place place (withKey Failure.place place v.failures) whole.failures

variable {verdicts : List Verdict}

theorem noneShared_findings (apart : verdicts.Pairwise Apart) : NoneShared Finding.place (verdicts.map findings) :=
  List.pairwise_map.mpr (apart.imp fun {_ _} differ => differ.findings)

theorem noneShared_failures (apart : verdicts.Pairwise Apart) : NoneShared Failure.place (verdicts.map failures) :=
  List.pairwise_map.mpr (apart.imp fun {_ _} differ => differ.failures)

theorem normalized_of_perm {others : List Verdict} (apart : verdicts.Pairwise Apart) (perm : verdicts.Perm others) :
    (fold verdicts).normalized = (fold others).normalized := by
  have counts : ∀ {M : Type} [Add M] [OfNat M 0] [Addable M] (count : Verdict → M),
      (∀ a b, count (merge a b) = count a + count b) → count {} = 0 →
      count (fold verdicts) = count (fold others) := by
    intro M _ _ _ count adds none
    rw [count_fold _ count adds none, count_fold _ count adds none, total_perm count perm]
  simp only [normalized, mk.injEq]
  refine ⟨mergeSort_congr keyOrder_placeOrder Finding.place fun place => ?_,
    mergeSort_congr keyOrder_placeOrder Failure.place fun place => ?_, counts checks (fun _ _ => rfl) rfl,
    counts hits (fun _ _ => rfl) rfl, counts misses (fun _ _ => rfl) rfl, counts calls (fun _ _ => rfl) rfl,
    counts retries (fun _ _ => rfl) rfl, counts promptTokens (fun _ _ => rfl) rfl,
    counts completionTokens (fun _ _ => rfl) rfl, counts latency (fun _ _ => rfl) rfl⟩
  · rw [findings_fold, findings_fold]
    exact withKey_flatten_of_perm (perm.map findings) (noneShared_findings apart) place
  · rw [failures_fold, failures_fold]
    exact withKey_flatten_of_perm (perm.map failures) (noneShared_failures apart) place

theorem keptIn_normalized (apart : verdicts.Pairwise Apart) {v : Verdict} (member : v ∈ verdicts) :
    v.KeptIn (fold verdicts).normalized where
  findings := by
    intro place some
    show StandsAs _ _ _ ((fold verdicts).findings.mergeSort _)
    rw [findings_fold]
    exact standsAs_mergeSort keyOrder_placeOrder (noneShared_findings apart) (List.mem_map_of_mem member) some
  failures := by
    intro place some
    show StandsAs _ _ _ ((fold verdicts).failures.mergeSort _)
    rw [failures_fold]
    exact standsAs_mergeSort keyOrder_placeOrder (noneShared_failures apart) (List.mem_map_of_mem member) some

/-- Verdicts of which no two speak of one place come to the same normal form in whichever order and with whichever
brackets they are merged, and in it the findings and the failures of each verdict about one place stand together in
their order. -/
theorem normalized_merging {m : Merging} (apart : verdicts.Pairwise Apart) (perm : m.leaves.Perm verdicts) :
    m.verdict.normalized = (fold verdicts).normalized ∧ ∀ v ∈ verdicts, v.KeptIn m.verdict.normalized := by
  have same : m.verdict.normalized = (fold verdicts).normalized := by
    rw [m.verdict_eq_fold, normalized_of_perm apart perm.symm]
  exact ⟨same, fun v member => same ▸ keptIn_normalized apart member⟩

/-- Two verdicts about two files, merged the other way round with an empty one between them. -/
theorem normalized_merging_of_two_files :
    let first : Verdict :=
      { findings := [{ rule := "r", path := "b.rs", message := "one" }, { rule := "r", path := "b.rs", message := "two" }],
        checks := 1, calls := 1 }
    let second : Verdict :=
      { findings := [{ rule := "r", path := "a.rs", message := "three" }], checks := 1, hits := 1 }
    [first, second].Pairwise Apart ∧
      (Merging.both (.one second) (.both .none (.one first))).verdict.normalized = (fold [first, second]).normalized ∧
      first.KeptIn (Merging.both (.one second) (.both .none (.one first))).verdict.normalized := by
  intro first second
  have apart : [first, second].Pairwise Apart := by
    refine List.pairwise_pair.mpr ⟨?_, ?_⟩ <;> decide
  obtain ⟨same, kept⟩ := normalized_merging (m := .both (.one second) (.both .none (.one first))) apart (.swap _ _ _)
  exact ⟨apart, same, kept first List.mem_cons_self⟩

end Verdict

end PolicyLint
