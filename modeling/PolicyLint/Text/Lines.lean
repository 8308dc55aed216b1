/-!
# Lines

A line ends at a line feed, or at the end of a text that is not empty. One carriage return before
the line feed belongs to the line end; any other carriage return is part of its line.
-/

namespace PolicyLint.Text

/-- The characters up to the first line feed and those after it, if there is one. -/
def splitLine : List Char → List Char × Option (List Char)
  | [] => ([], none)
  | c :: rest =>
    if c = '\n' then ([], some rest)
    else
      let (line, after) := splitLine rest
      (c :: line, after)

theorem splitLine_length {cs line rest : List Char} (split : splitLine cs = (line, some rest)) :
    rest.length < cs.length := by
  induction cs generalizing line with
  | nil => simp [splitLine] at split
  | cons c cs ih =>
    rw [splitLine] at split
    split at split
    · simp only [Prod.mk.injEq, Option.some.injEq] at split
      obtain ⟨_, rfl⟩ := split
      simp
    · cases found : splitLine cs with
      | mk line' after =>
        rw [found] at split
        simp only [Prod.mk.injEq] at split
        obtain ⟨_, rfl⟩ := split
        have := ih found
        simp only [List.length_cons]
        omega

def dropReturn (line : List Char) : List Char :=
  if line.getLast? = some '\r' then line.dropLast else line

def lines (cs : List Char) : List (List Char) :=
  match split : splitLine cs with
  | ([], none) => []
  | (line, none) => [line]
  | (line, some rest) =>
    have := splitLine_length split
    dropReturn line :: lines rest
termination_by cs.length

end PolicyLint.Text
