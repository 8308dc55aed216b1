import Mathlib.Data.List.Forall2
import PolicyLint.Proofs.Text.Lines
import PolicyLint.SourceFile

/-!
# Files of a project

A project is one text, in which nothing but its header tells where a file begins. `project_content_iff` says that the
text is read back to the files it was made of, as long as no file looks like several: then projects with one text have
the same paths in the same order, and contents that differ at most in a line feed at the end.
-/

namespace PolicyLint.SourceFile

def headerMark : List Char := ['/', '/', ' ', 'f', 'i', 'l', 'e', ':', ' ']

/-- A content as it stands in the project, with its last line ended. -/
def closed (content : String) : List Char :=
  if content.toList.getLast? = some '\n' then content.toList else content.toList ++ ['\n']

/-- Nothing in the file reads like the header of another one: its path is one line, and no line of its content begins
with the mark of a header after an empty line that another line stands before. -/
structure Plain (f : SourceFile) : Prop where
  path : '\n' ∉ f.path.toList
  content : ¬ '\n' :: '\n' :: headerMark <:+: f.content.toList

/-- Files of one path and one content. A line feed that is missing at the end of a content does not count. -/
structure Alike (f f' : SourceFile) : Prop where
  path : f.path = f'.path
  content : f.content = f'.content ∨
    f.content ++ "\n" = f'.content ∧ f.content.toList.getLast? ≠ some '\n' ∨
    f'.content ++ "\n" = f.content ∧ f'.content.toList.getLast? ≠ some '\n'

/-! ### Ended contents -/

theorem excerpt_eq (f : SourceFile) : f.excerpt = headerMark ++ (f.path.toList ++ '\n' :: (closed f.content ++ ['\n'])) := by
  have mark : "// file: ".toList = headerMark := rfl
  unfold excerpt closed
  rw [mark]
  by_cases ends : f.content.toList.getLast? = some '\n'
  · simp only [if_pos ends]
    simp
  · simp only [if_neg ends]
    simp

theorem closed_split (content : String) : ∃ body, closed content = body ++ ['\n'] ∧ body <+: content.toList := by
  unfold closed
  by_cases ends : content.toList.getLast? = some '\n'
  · rw [if_pos ends]
    have whole := List.dropLast_append_getLast? _ ends
    exact ⟨content.toList.dropLast, whole.symm, List.dropLast_prefix _⟩
  · rw [if_neg ends]
    exact ⟨content.toList, rfl, List.prefix_refl _⟩

theorem closed_append {content : String} (unended : content.toList.getLast? ≠ some '\n') :
    closed (content ++ "\n") = closed content := by
  unfold closed
  rw [if_neg unended]
  simp

theorem closed_eq_iff {content content' : String} :
    closed content = closed content' ↔ content = content' ∨
      content ++ "\n" = content' ∧ content.toList.getLast? ≠ some '\n' ∨
      content' ++ "\n" = content ∧ content'.toList.getLast? ≠ some '\n' := by
  constructor
  · intro same
    unfold closed at same
    by_cases ends : content.toList.getLast? = some '\n' <;> by_cases ends' : content'.toList.getLast? = some '\n'
    · rw [if_pos ends, if_pos ends'] at same
      exact Or.inl (String.toList_inj.mp same)
    · rw [if_pos ends, if_neg ends'] at same
      exact Or.inr (Or.inr ⟨String.toList_inj.mp (by simp [same]), ends'⟩)
    · rw [if_neg ends, if_pos ends'] at same
      exact Or.inr (Or.inl ⟨String.toList_inj.mp (by simp [same]), ends⟩)
    · rw [if_neg ends, if_neg ends'] at same
      exact Or.inl (String.toList_inj.mp (List.append_cancel_right same))
  · rintro (rfl | ⟨rfl, unended⟩ | ⟨rfl, unended⟩)
    · rfl
    · exact (closed_append unended).symm
    · exact closed_append unended

theorem alike_iff {f f' : SourceFile} : f.Alike f' ↔ f.path = f'.path ∧ closed f.content = closed f'.content := by
  rw [closed_eq_iff]
  exact ⟨fun alike => ⟨alike.path, alike.content⟩, fun ⟨path, content⟩ => ⟨path, content⟩⟩

/-! ### Reading a project -/

def Headed (rest : List Char) : Prop := rest = [] ∨ headerMark <+: rest

theorem headed_project (files : List SourceFile) : Headed (files.flatMap excerpt) := by
  cases files with
  | nil => exact Or.inl rfl
  | cons f files =>
    right
    rw [List.flatMap_cons, excerpt_eq, List.append_assoc]
    exact List.prefix_append _ _

theorem not_headerMark_prefix_newline (rest : List Char) : ¬headerMark <+: '\n' :: rest := by
  rintro ⟨tail, same⟩
  exact absurd (List.cons.inj same).1 (by decide)

/-- A header is not interrupted by the end of a line. -/
theorem headerMark_prefix_of_line {line rest : List Char} (opens : headerMark <+: line ++ '\n' :: rest) :
    headerMark <+: line := by
  rcases List.prefix_or_prefix_of_prefix opens (List.prefix_append line ('\n' :: rest)) with inside | short
  · exact inside
  · obtain ⟨more, whole⟩ := short
    obtain ⟨tail, same⟩ := opens
    cases more with
    | nil => simp [← whole]
    | cons c more =>
      rw [← whole, List.append_assoc] at same
      obtain rfl : c = '\n' := (List.cons.inj (List.append_cancel_left same)).1
      have inside : '\n' ∈ headerMark := by simp [← whole]
      exact absurd inside (by decide)

/-- An ended content does not go on where another one is over. -/
theorem eq_nil_of_longer {content content' : String} {more rest rest' : List Char}
    (plain : ¬ '\n' :: '\n' :: headerMark <:+: content'.toList) (headed : Headed rest)
    (longer : closed content' = closed content ++ more) (split : '\n' :: rest = more ++ '\n' :: rest') : more = [] := by
  rcases List.eq_nil_or_concat more with none | ⟨lines, last, rfl⟩
  · exact none
  · exfalso
    obtain ⟨body, ended, _⟩ := closed_split content
    obtain ⟨body', ended', within⟩ := closed_split content'
    rw [ended, ended', List.concat_eq_append, ← List.append_assoc] at longer
    obtain ⟨whole, ends⟩ := List.append_inj' longer rfl
    obtain rfl : '\n' = last := (List.cons.inj ends).1
    rw [List.concat_eq_append] at split
    cases lines with
    | nil =>
      -- the empty line is followed by another one, and not by a header
      have after : rest = '\n' :: rest' := (List.cons.inj split).2
      rcases headed with none | opens
      · exact absurd (after.symm.trans none) (List.cons_ne_nil _ _)
      · rw [after] at opens
        exact not_headerMark_prefix_newline _ opens
    | cons c lines =>
      obtain rfl : '\n' = c := (List.cons.inj split).1
      have after : rest = lines ++ '\n' :: '\n' :: rest' := by simpa using split
      have opens : headerMark <+: lines := by
        rcases headed with none | opens
        · simp [after] at none
        · rw [after] at opens
          exact headerMark_prefix_of_line opens
      apply plain
      refine List.IsInfix.trans ?_ within.isInfix
      obtain ⟨tail, rfl⟩ := opens
      exact ⟨body, tail, by simp [whole]⟩

theorem closed_append_inj {content content' : String} {rest rest' : List Char}
    (plain : ¬ '\n' :: '\n' :: headerMark <:+: content.toList) (plain' : ¬ '\n' :: '\n' :: headerMark <:+: content'.toList)
    (headed : Headed rest) (headed' : Headed rest')
    (same : closed content ++ '\n' :: rest = closed content' ++ '\n' :: rest') :
    closed content = closed content' ∧ rest = rest' := by
  rcases List.append_eq_append_iff.mp same with ⟨more, longer, split⟩ | ⟨more, longer, split⟩
  · obtain rfl := eq_nil_of_longer plain' headed longer split
    exact ⟨by rw [longer, List.append_nil], (List.cons.inj split).2⟩
  · obtain rfl := eq_nil_of_longer plain headed' longer split
    exact ⟨by rw [longer, List.append_nil], (List.cons.inj split).2.symm⟩

theorem excerpt_append_inj {f f' : SourceFile} {rest rest' : List Char} (plain : f.Plain) (plain' : f'.Plain)
    (headed : Headed rest) (headed' : Headed rest') (same : f.excerpt ++ rest = f'.excerpt ++ rest') :
    f.Alike f' ∧ rest = rest' := by
  simp only [excerpt_eq, List.append_assoc, List.cons_append, List.nil_append] at same
  obtain ⟨path, contents⟩ := Text.cut_inj plain.path plain'.path (List.append_cancel_left same)
  obtain ⟨content, later⟩ := closed_append_inj plain.content plain'.content headed headed' contents
  exact ⟨alike_iff.mpr ⟨String.toList_inj.mp path, content⟩, later⟩

theorem excerpt_ne_nil (f : SourceFile) : f.excerpt ≠ [] := by
  rw [excerpt_eq]
  exact List.append_ne_nil_of_left_ne_nil (List.cons_ne_nil _ _) _

theorem alike_of_excerpts {files files' : List SourceFile} (plain : ∀ f ∈ files, f.Plain) (plain' : ∀ f ∈ files', f.Plain)
    (same : files.flatMap excerpt = files'.flatMap excerpt) : List.Forall₂ Alike files files' := by
  induction files generalizing files' with
  | nil =>
    cases files' with
    | nil => exact List.Forall₂.nil
    | cons f' files' => simp [excerpt_ne_nil] at same
  | cons f files ih =>
    cases files' with
    | nil => simp [excerpt_ne_nil] at same
    | cons f' files' =>
      rw [List.forall_mem_cons] at plain plain'
      rw [List.flatMap_cons, List.flatMap_cons] at same
      obtain ⟨alike, later⟩ := excerpt_append_inj plain.1 plain'.1 (headed_project files) (headed_project files') same
      exact List.Forall₂.cons alike (ih plain.2 plain'.2 later)

theorem excerpts_of_alike {files files' : List SourceFile} (alike : List.Forall₂ Alike files files') :
    files.flatMap excerpt = files'.flatMap excerpt := by
  induction alike with
  | nil => rfl
  | cons first _ ih =>
    obtain ⟨path, content⟩ := alike_iff.mp first
    rw [List.flatMap_cons, List.flatMap_cons, excerpt_eq, excerpt_eq, path, content, ih]

/-- Two projects of plain files have one content, and one fingerprint if digests do not collide, only if they are made
of the same files in the same order. A line feed that is missing at the end of a file does not count. -/
theorem project_content_iff {files files' : List SourceFile} (plain : ∀ f ∈ files, f.Plain)
    (plain' : ∀ f ∈ files', f.Plain) :
    ((project files).content = (project files').content ↔ List.Forall₂ Alike files files') ∧
      (((project files).fingerprint = (project files').fingerprint → (project files).content = (project files').content) →
        ((project files).fingerprint = (project files').fingerprint ↔ List.Forall₂ Alike files files')) := by
  have contents : (project files).content = (project files').content ↔ List.Forall₂ Alike files files' := by
    rw [project, project, String.ofList_inj]
    exact ⟨alike_of_excerpts plain plain', excerpts_of_alike⟩
  refine ⟨contents, fun collisionless => ⟨fun same => contents.mp (collisionless same), fun alike => ?_⟩⟩
  exact congrArg PolicyLint.fingerprint (contents.mpr alike)

theorem project_content_iff_of_swapped :
    let a : SourceFile := ⟨"a", "// file: b\n"⟩
    let b : SourceFile := ⟨"b", "\n// file: a"⟩
    (project [a, b]).content = (project [{ a with content := "// file: b" }, b]).content ∧
      (project [a, b]).content ≠ (project [b, a]).content := by
  intro a b
  have plain : a.Plain ∧ b.Plain ∧ Plain { a with content := "// file: b" } := by
    refine ⟨⟨?_, ?_⟩, ⟨?_, ?_⟩, ⟨?_, ?_⟩⟩ <;> decide +kernel
  obtain ⟨first, second, third⟩ := plain
  have both : ∀ f ∈ [a, b], f.Plain := by simp [first, second]
  constructor
  · have unended : ∀ f ∈ [{ a with content := "// file: b" }, b], f.Plain := by simp [second, third]
    obtain ⟨contents, _⟩ := project_content_iff both unended
    refine contents.mpr (.cons ⟨rfl, Or.inr (Or.inr ⟨?_, ?_⟩)⟩ (.cons ⟨rfl, Or.inl rfl⟩ .nil)) <;> decide +kernel
  · have swapped : ∀ f ∈ [b, a], f.Plain := by simp [first, second]
    obtain ⟨contents, _⟩ := project_content_iff both swapped
    intro same
    cases contents.mp same with
    | cons alike _ => exact absurd alike.path (by decide)

/-- Different lists of files with distinct paths, of which the projects are the same. -/
structure Confused (files files' : List SourceFile) : Prop where
  paths : (files.map path).Nodup
  paths' : (files'.map path).Nodup
  different : files ≠ files'
  same : (project files).content = (project files').content

/-- A line feed at the end, a header in a content and a line feed in a path. -/
theorem confused_projects :
    Confused [⟨"a", "x"⟩] [⟨"a", "x\n"⟩] ∧
      Confused [⟨"a", "x\n\n// file: b\ny"⟩] [⟨"a", "x"⟩, ⟨"b", "y"⟩] ∧
      Confused [⟨"a\nb", "c"⟩] [⟨"a", "b\nc"⟩] := by
  refine ⟨⟨?_, ?_, ?_, ?_⟩, ⟨?_, ?_, ?_, ?_⟩, ⟨?_, ?_, ?_, ?_⟩⟩ <;> decide +kernel

end PolicyLint.SourceFile
