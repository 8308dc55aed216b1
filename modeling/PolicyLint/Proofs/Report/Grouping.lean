import Mathlib.Data.List.Basic
import PolicyLint.Proofs.Review.Reference
import PolicyLint.Proofs.Verdict.Normal
import PolicyLint.Report.Basic

/-!
# Findings by file

A text report writes a header wherever the path changes. The findings of a review are in the order of their paths, so
each file has one header in its report, and each finding stands once, under its own path.
-/

namespace PolicyLint

/-- The paths are those of the findings, each once and in ascending order, and the findings are those of the first
path, then those of the second, and so on. -/
structure Grouped (findings : List Finding) (paths : List String) : Prop where
  ascending : paths.Pairwise (· < ·)
  mem : ∀ path, path ∈ paths ↔ ∃ f ∈ findings, f.path = path
  flatten : paths.flatMap (fun path => withKey Finding.path path findings) = findings

namespace Grouped

variable {f : Finding} {findings : List Finding} {path : String} {paths later : List String}

theorem nil : Grouped [] [] := ⟨List.Pairwise.nil, by simp, rfl⟩

theorem unique {others : List String} (grouped : Grouped findings paths) (grouped' : Grouped findings others) :
    paths = others := by
  have same : paths.Perm others := by
    refine (List.perm_ext_iff_of_nodup (grouped.ascending.imp String.ne_of_lt)
      (grouped'.ascending.imp String.ne_of_lt)).mpr fun path => ?_
    rw [grouped.mem, grouped'.mem]
  exact same.eq_of_pairwise (fun _ _ _ _ less less' => absurd less' (String.lt_asymm less)) grouped.ascending
    grouped'.ascending

end Grouped

namespace Report

variable {findings block : List Finding} {path : String} {paths : List String}

end Report

namespace Verdict

end Verdict

namespace Reviewer

variable {σ τ : Type}

end Reviewer

end PolicyLint
