import Mathlib.Data.List.Forall2
import PolicyLint.Prompt.Basic
import PolicyLint.Prompt.Completion
import PolicyLint.Proofs.Decimal.Numeral
import PolicyLint.Proofs.Text.Lines

/-!
# Numbered listings

A prompt ends with the lines of the file, one row for each and its number before it, between two fences. A row begins
with a number, so no row is a fence, and what follows the number is the line as it is: `user_lists_lines` says that the
text tells the lines of a file apart from all others.
-/

namespace PolicyLint

namespace Text

theorem isBlank_of_isDigit {c : Char} (digit : c.isDigit = true) : isBlank c = false := by
  have code : 48 ≤ c.toNat ∧ c.toNat ≤ 57 := by
    simpa [Char.isDigit, UInt32.le_iff_toNat_le] using digit
  simp [isBlank, blankRanges]
  omega

end Text

namespace Prompt

/-! ### Numbers of lines -/

/-- A number in decimal that ends in the fourth column. One with more digits starts in the first column. -/
def Aligned (n : Nat) (text : List Char) : Prop :=
  ∃ blanks, text = List.replicate blanks ' ' ++ n.repr.toList ∧ text.length = max 4 n.repr.toList.length

theorem aligned_iff {n : Nat} {text : List Char} : Aligned n text ↔ text = lineNumber n := by
  unfold Aligned lineNumber
  simp only [Nat.toList_repr]
  constructor
  · rintro ⟨blanks, rfl, long⟩
    have count : blanks = 4 - (Nat.toDigits 10 n).length := by
      simp only [List.length_append, List.length_replicate] at long
      omega
    rw [count]
  · rintro rfl
    refine ⟨_, rfl, ?_⟩
    simp only [List.length_append, List.length_replicate]
    omega

theorem mem_lineNumber {n : Nat} {c : Char} (member : c ∈ lineNumber n) : c = ' ' ∨ c.isDigit = true := by
  unfold lineNumber at member
  rcases List.mem_append.mp member with blank | digit
  · exact Or.inl (List.eq_of_mem_replicate blank)
  · exact Or.inr (Decimal.isDigit_toDigits n c digit)

theorem not_mem_lineNumber {c : Char} (visible : c ≠ ' ') (other : c.isDigit = false) (n : Nat) : c ∉ lineNumber n := by
  intro member
  rcases mem_lineNumber member with blank | digit
  · exact visible blank
  · exact absurd (digit.symm.trans other) (by decide)

theorem lineNumber_inj {n n' : Nat} (same : lineNumber n = lineNumber n') : n = n' := by
  -- no digit is a blank, so the digits alone are the number
  have digits : ∀ n, (lineNumber n).filter Char.isDigit = Nat.toDigits 10 n := by
    intro n
    unfold lineNumber
    rw [List.filter_append, List.filter_replicate_of_neg (by decide), List.nil_append]
    exact List.filter_eq_self.mpr (Decimal.isDigit_toDigits n)
  rw [← Decimal.ofDigits_toDigits n, ← digits n, same, digits n', Decimal.ofDigits_toDigits]

/-! ### Rows -/

def row (line : List Char) (n : Nat) : List Char := lineNumber n ++ '|' :: ' ' :: line

theorem newline_not_mem_row {line : List Char} (free : '\n' ∉ line) (n : Nat) : '\n' ∉ row line n := by
  have number : '\n' ∉ lineNumber n := not_mem_lineNumber (by decide) (by decide) n
  unfold row
  simp [number, free]

theorem not_fence_row (line : List Char) (n : Nat) : ¬Payload.ticks <+: Text.trimLeft (row line n) := by
  obtain ⟨d, ds, digits⟩ : ∃ d ds, Nat.toDigits 10 n = d :: ds :=
    List.exists_cons_of_ne_nil Nat.toDigits_ne_nil
  have digit : d.isDigit = true := Decimal.isDigit_toDigits n d (by simp [digits])
  have trimmed : Text.trimLeft (row line n) = d :: (ds ++ '|' :: ' ' :: line) := by
    unfold row lineNumber Text.trimLeft
    rw [digits, List.append_assoc, List.dropWhile_append_of_pos, List.cons_append,
      List.dropWhile_cons_of_neg (by simp [Text.isBlank_of_isDigit digit])]
    intro c member
    rw [List.eq_of_mem_replicate member]
    decide
  rw [trimmed]
  intro opens
  obtain ⟨rfl, _⟩ := List.cons_prefix_cons.mp opens
  exact absurd digit (by decide)

theorem number_of_row {line number : List Char} {n n' : Nat} (aligned : Aligned n' number)
    (shown : number ++ ['|', ' '] <+: row line n) : n' = n := by
  obtain rfl := aligned_iff.mp aligned
  obtain ⟨rest, split⟩ := shown
  unfold row at split
  rw [List.append_assoc] at split
  have free : ∀ n, '|' ∉ lineNumber n := not_mem_lineNumber (by decide) (by decide)
  exact lineNumber_inj (Text.cut_inj (free n') (free n) split).1

theorem listingFrom_eq (n : Nat) (lines : List (List Char)) :
    listingFrom n lines = ((lines.zipIdx n).map fun p => row p.1 p.2).flatMap (· ++ ['\n']) := by
  induction lines generalizing n with
  | nil => rfl
  | cons line rest ih =>
    rw [listingFrom, ih]
    simp [numbered, row]

theorem listingFrom_append_ne_fence (n : Nat) (line : List Char) (rest : List (List Char)) :
    listingFrom n (line :: rest) ++ fence ≠ fence := by
  intro same
  have long := congrArg List.length same
  simp [listingFrom, numbered] at long
  omega

theorem listingFrom_inj {lines lines' : List (List Char)} (n : Nat) (free : ∀ line ∈ lines, '\n' ∉ line)
    (free' : ∀ line ∈ lines', '\n' ∉ line) (same : listingFrom n lines ++ fence = listingFrom n lines' ++ fence) :
    lines = lines' := by
  induction lines generalizing n lines' with
  | nil =>
    cases lines' with
    | nil => rfl
    | cons line' rest' => exact absurd same.symm (listingFrom_append_ne_fence n line' rest')
  | cons line rest ih =>
    cases lines' with
    | nil => exact absurd same (listingFrom_append_ne_fence n line rest)
    | cons line' rest' =>
      rw [List.forall_mem_cons] at free free'
      simp only [listingFrom, numbered, List.append_assoc] at same
      have lines := List.append_cancel_left (List.append_cancel_left same)
      obtain ⟨rfl, later⟩ := Text.cut_inj free.1 free'.1 lines
      rw [ih (n + 1) free.2 free'.2 later]

/-! ### Listings -/

/-- The rows of a listing, one for each line and in their order. A row holds one line and its own number, and no row
opens or closes a block, even without the blanks in front of it. -/
structure Lists (lines rows : List (List Char)) : Prop where
  shown : List.Forall₂ (fun p row => ∃ number, Aligned p.2 number ∧ row = number ++ '|' :: ' ' :: p.1)
    (lines.zipIdx 1) rows
  whole : ∀ row ∈ rows, '\n' ∉ row
  inside : ∀ row ∈ rows, ¬Payload.ticks <+: Text.trimLeft row
  definite : ∀ i row, rows[i]? = some row → ∀ n number, Aligned n number → number ++ ['|', ' '] <+: row → n = i + 1

theorem lists_rows {lines : List (List Char)} (free : ∀ line ∈ lines, '\n' ∉ line) :
    Lists lines ((lines.zipIdx 1).map fun p => row p.1 p.2) := by
  refine ⟨?_, ?_, ?_, ?_⟩
  · rw [List.forall₂_map_right_iff, List.forall₂_same]
    exact fun p _ => ⟨lineNumber p.2, aligned_iff.mpr rfl, rfl⟩
  · intro text member
    obtain ⟨p, there, rfl⟩ := List.mem_map.mp member
    exact newline_not_mem_row (free p.1 (List.fst_mem_of_mem_zipIdx there)) p.2
  · intro text member
    obtain ⟨p, _, rfl⟩ := List.mem_map.mp member
    exact not_fence_row p.1 p.2
  · intro i text found n number aligned starts
    rw [List.getElem?_map, List.getElem?_zipIdx] at found
    obtain ⟨p, place, rfl⟩ := Option.map_eq_some_iff.mp found
    obtain ⟨line, _, rfl⟩ := Option.map_eq_some_iff.mp place
    rw [number_of_row aligned starts, Nat.add_comm]

/-- The text about a file ends with its lines in numbered rows between two fences. Another file of this path gives the
same text only if its lines are the same. -/
theorem user_lists_lines (file : SourceFile) (rule : Rule) (model : Model) :
    (∃ front rows, (render file rule model).user.toList =
        front ++ '\n' :: fence ++ rows.flatMap (· ++ ['\n']) ++ fence ∧
      Lists (Text.lines file.content.toList) rows) ∧
    ∀ content model', (render file rule model).user = (render ⟨file.path, content⟩ rule model').user ↔
      Text.lines file.content.toList = Text.lines content.toList := by
  have free : ∀ cs, ∀ line ∈ Text.lines cs, '\n' ∉ line := fun cs line => Text.newline_not_mem_lines
  have user : ∀ content model', (render ⟨file.path, content⟩ rule model').user.toList =
      (ruleText rule ++ file.path.toList ++ ['\n']) ++ '\n' :: fence ++
        (listingFrom 1 (Text.lines content.toList) ++ fence) := by
    intro content model'
    simp [render, userText, listing]
  constructor
  · refine ⟨ruleText rule ++ file.path.toList ++ ['\n'], _, ?_, lists_rows (free file.content.toList)⟩
    rw [← listingFrom_eq, user file.content model, ← List.append_assoc]
  · intro content model'
    constructor
    · intro same
      have texts := (user file.content model).symm.trans ((congrArg String.toList same).trans (user content model'))
      exact listingFrom_inj 1 (free _) (free _) (List.append_cancel_left texts)
    · intro same
      rw [← String.toList_inj, user content model', ← same]
      exact user file.content model

end Prompt

end PolicyLint
