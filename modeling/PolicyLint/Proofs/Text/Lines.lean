import PolicyLint.Text.Lines

/-!
# Characters of lines

No line holds a line feed, so a text tells where its first line ends.
-/

namespace PolicyLint.Text

theorem newline_not_mem_splitLine (cs : List Char) : '\n' ∉ (splitLine cs).1 := by
  induction cs with
  | nil => exact List.not_mem_nil
  | cons c rest ih =>
    unfold splitLine
    by_cases ends : c = '\n'
    · simp [ends]
    · rw [if_neg ends]
      simpa [Ne.symm ends] using ih

theorem dropReturn_sublist (line : List Char) : (dropReturn line).Sublist line := by
  unfold dropReturn
  split
  · exact List.dropLast_sublist line
  · exact List.Sublist.refl line

theorem newline_not_mem_lines {cs line : List Char} (member : line ∈ lines cs) : '\n' ∉ line := by
  fun_induction lines cs with
  | case1 => cases member
  | case2 cs whole _ split =>
    obtain rfl := List.mem_singleton.mp member
    have free := newline_not_mem_splitLine cs
    rwa [split] at free
  | case3 cs first rest split _ ih =>
    rcases List.mem_cons.mp member with rfl | later
    · have free := newline_not_mem_splitLine cs
      rw [split] at free
      exact fun there => free ((dropReturn_sublist first).subset there)
    · exact ih later

/-- What stands before and behind the first of these characters. -/
theorem cut_inj {c : Char} {before before' behind behind' : List Char} (free : c ∉ before) (free' : c ∉ before')
    (same : before ++ c :: behind = before' ++ c :: behind') : before = before' ∧ behind = behind' := by
  rcases List.append_eq_append_iff.mp same with ⟨more, longer, rest⟩ | ⟨more, longer, rest⟩
  · cases more with
    | nil => simp_all
    | cons d more =>
      obtain ⟨rfl, _⟩ := List.cons.inj rest
      exact absurd (by simp [longer]) free'
  · cases more with
    | nil => simp_all
    | cons d more =>
      obtain ⟨rfl, _⟩ := List.cons.inj rest
      exact absurd (by simp [longer]) free

end PolicyLint.Text
