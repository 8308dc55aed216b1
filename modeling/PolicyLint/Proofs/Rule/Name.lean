import PolicyLint.Proofs.Path.Relative
import PolicyLint.Rule.Name

/-!
# Rule names as paths

A valid rule name has no dot in it and no part that is empty. So as a path it leads downwards only, by one name or two.
-/

namespace PolicyLint.Rule

open PolicyLint.Path (Spelled)

structure Plain (cs : List Char) : Prop where
  full : cs ≠ []
  slash : '/' ∉ cs
  dot : '.' ∉ cs

theorem not_mem_of_isWordChar {cs : List Char} (word : cs.all isWordChar = true) : '/' ∉ cs ∧ '.' ∉ cs := by
  constructor <;> intro member <;> exact absurd (List.all_eq_true.mp word _ member) (by decide)

theorem plain_of_isWord {cs : List Char} (word : isWord cs = true) : Plain cs := by
  cases cs with
  | nil => cases word
  | cons c rest =>
    obtain ⟨letter, others⟩ := Bool.and_eq_true_iff.mp word
    have chars : (c :: rest).all isWordChar = true := by simp [isWordChar, Char.isAlphanum, letter, others]
    have free := not_mem_of_isWordChar chars
    exact ⟨List.cons_ne_nil _ _, free.1, free.2⟩

theorem plain_at {cs : List Char} (plain : Plain cs) : Plain ('@' :: cs) := by
  refine ⟨List.cons_ne_nil _ _, ?_, ?_⟩ <;> rw [List.mem_cons, not_or]
  · exact ⟨by decide, plain.slash⟩
  · exact ⟨by decide, plain.dot⟩

theorem isWordPath_cases {cs : List Char} (valid : isWordPath cs = true) :
    isWord cs = true ∨ ∃ first second, cs = first ++ '/' :: second ∧ isWord first = true ∧ isWord second = true := by
  unfold isWordPath at valid
  split at valid
  · exact Or.inl valid
  · rename_i c second rest
    obtain ⟨first, word⟩ := Bool.and_eq_true_iff.mp valid
    have slash : c = '/' := by
      have stops := List.head?_dropWhile_not (· ≠ '/') cs
      rw [rest] at stops
      simpa using stops
    have whole := List.takeWhile_append_dropWhile (p := fun c => decide (c ≠ '/')) (l := cs)
    rw [rest, slash] at whole
    exact Or.inr ⟨_, second, whole.symm, first, word⟩

theorem isNameChars_cases {cs : List Char} (valid : isNameChars cs = true) :
    Plain cs ∨ ∃ first second, cs = first ++ '/' :: second ∧ Plain first ∧ Plain second := by
  unfold isNameChars at valid
  split at valid
  · rename_i rest
    rcases isWordPath_cases valid with word | ⟨first, second, rfl, word, word'⟩
    · exact Or.inl (plain_at (plain_of_isWord word))
    · exact Or.inr ⟨'@' :: first, second, rfl, plain_at (plain_of_isWord word), plain_of_isWord word'⟩
  · rcases isWordPath_cases valid with word | ⟨first, second, rfl, word, word'⟩
    · exact Or.inl (plain_of_isWord word)
    · exact Or.inr ⟨first, second, rfl, plain_of_isWord word, plain_of_isWord word'⟩

theorem Plain.spelled {cs : List Char} (plain : Plain cs) : Spelled (String.ofList cs) [String.ofList cs] := by
  refine .of_name ?_ ?_
  · rw [String.toList_ofList, Step.ofPart?, if_neg, if_neg]
    · rintro rfl
      exact plain.dot List.mem_cons_self
    · rintro (none | rfl)
      · exact plain.full none
      · exact plain.dot List.mem_cons_self
  · rw [String.toList_ofList]
    exact plain.slash

theorem spelled_of_isValidName {name : String} (valid : isValidName name = true) : ∃ names, Spelled name names := by
  rcases isNameChars_cases valid with plain | ⟨first, second, split, plain, plain'⟩
  · have spelled := plain.spelled
    rw [String.ofList_toList] at spelled
    exact ⟨_, spelled⟩
  · have whole : name = String.ofList first ++ "/" ++ String.ofList second := by
      rw [← String.toList_inj, split]
      simp
    exact ⟨_, whole ▸ plain.spelled.append plain'.spelled⟩

end PolicyLint.Rule
