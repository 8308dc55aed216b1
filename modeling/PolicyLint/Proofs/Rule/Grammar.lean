import Mathlib.Computability.Language
import Mathlib.Data.List.TakeWhile
import PolicyLint.Proofs.Rule.Name

/-!
# The grammar of rule names

The names as a language: its words are put together from letters and other characters by choice, sequence and
repetition. `isValidName_iff` says that a text is a valid name just when all of it is in the language.
-/

namespace PolicyLint.Rule

open Computability

/-! ### The language -/

namespace Grammar

def IsLetter (c : Char) : Prop := ('a' ≤ c ∧ c ≤ 'z') ∨ ('A' ≤ c ∧ c ≤ 'Z')

def IsDigit (c : Char) : Prop := '0' ≤ c ∧ c ≤ '9'

/-- The characters after the first letter of a word. -/
def Follows (c : Char) : Prop := IsLetter c ∨ IsDigit c ∨ c = '_' ∨ c = '-'

def one (p : Char → Prop) : Language Char := {cs | ∃ c, p c ∧ cs = [c]}

def word : Language Char := one IsLetter * (one Follows)∗

def path : Language Char := word * (1 + one (· = '/') * word)

def name : Language Char := (1 + one (· = '@')) * path

end Grammar

open Grammar

theorem mem_kstar_one {p : Char → Prop} {cs : List Char} : cs ∈ (one p)∗ ↔ ∀ c ∈ cs, p c := by
  rw [Language.mem_kstar]
  constructor
  · rintro ⟨texts, rfl, each⟩ c member
    obtain ⟨text, here, inside⟩ := List.mem_flatten.mp member
    obtain ⟨d, has, rfl⟩ := each text here
    exact List.mem_singleton.mp inside ▸ has
  · intro all
    refine ⟨cs.map ([·]), List.flatMap_singleton' cs |>.symm, fun text member => ?_⟩
    obtain ⟨c, here, rfl⟩ := List.mem_map.mp member
    exact ⟨c, all c here, rfl⟩

theorem mem_one_mul {p : Char → Prop} {l : Language Char} {cs : List Char} :
    cs ∈ one p * l ↔ ∃ c rest, cs = c :: rest ∧ p c ∧ rest ∈ l := by
  rw [Language.mem_mul]
  constructor
  · rintro ⟨_, ⟨c, has, rfl⟩, rest, member, rfl⟩
    exact ⟨c, rest, rfl, has, member⟩
  · rintro ⟨c, rest, rfl, has, member⟩
    exact ⟨[c], ⟨c, has, rfl⟩, rest, member, rfl⟩

theorem mem_one_add_mul {p : Char → Prop} {l : Language Char} {cs : List Char} :
    cs ∈ (1 + one p) * l ↔ cs ∈ l ∨ ∃ c rest, cs = c :: rest ∧ p c ∧ rest ∈ l := by
  rw [add_mul, one_mul, Language.mem_add, mem_one_mul]

/-! ### Words -/

theorem isAlpha_iff {c : Char} : c.isAlpha = true ↔ IsLetter c := by
  have upper : c.isUpper = true ↔ 'A' ≤ c ∧ c ≤ 'Z' := by
    show decide ('A' ≤ c ∧ c ≤ 'Z') = true ↔ _
    exact decide_eq_true_iff
  have lower : c.isLower = true ↔ 'a' ≤ c ∧ c ≤ 'z' := by
    show (decide ('a' ≤ c) && decide (c ≤ 'z')) = true ↔ _
    rw [Bool.and_eq_true, decide_eq_true_eq, decide_eq_true_eq]
  show (c.isUpper || c.isLower) = true ↔ _
  rw [Bool.or_eq_true, upper, lower]
  exact Or.comm

theorem isWordChar_iff {c : Char} : isWordChar c = true ↔ Follows c := by
  have digit : c.isDigit = true ↔ IsDigit c := by simp [Char.isDigit, IsDigit, Char.le_def]
  simp only [isWordChar, Char.isAlphanum, Bool.or_eq_true, decide_eq_true_eq, isAlpha_iff, digit, Follows, or_assoc]

theorem mem_word {cs : List Char} : cs ∈ word ↔ isWord cs = true := by
  rw [word, mem_one_mul]
  simp only [mem_kstar_one, ← isAlpha_iff, ← isWordChar_iff]
  constructor
  · rintro ⟨c, rest, rfl, letter, others⟩
    exact Bool.and_eq_true_iff.mpr ⟨letter, List.all_eq_true.mpr others⟩
  · intro valid
    cases cs with
    | nil => cases valid
    | cons c rest =>
      obtain ⟨letter, others⟩ := Bool.and_eq_true_iff.mp valid
      exact ⟨c, rest, rfl, letter, List.all_eq_true.mp others⟩

/-! ### Names -/

theorem slashless {cs : List Char} (valid : isWord cs = true) : ∀ c ∈ cs, decide (c ≠ '/') = true := by
  intro c member
  simpa using ne_of_mem_of_not_mem member (plain_of_isWord valid).slash

theorem isWordPath_of_word {cs : List Char} (valid : isWord cs = true) : isWordPath cs = true := by
  rw [isWordPath, List.dropWhile_eq_nil_iff.mpr (slashless valid)]
  exact valid

theorem isWordPath_of_two {first second : List Char} (valid : isWord first = true) (valid' : isWord second = true) :
    isWordPath (first ++ '/' :: second) = true := by
  have rest : (first ++ '/' :: second).dropWhile (· ≠ '/') = '/' :: second := by
    rw [List.dropWhile_append_of_pos (slashless valid)]
    rfl
  have front : (first ++ '/' :: second).takeWhile (· ≠ '/') = first := by
    rw [List.takeWhile_append_of_pos (slashless valid)]
    exact List.append_nil first
  rw [isWordPath, rest]
  dsimp only
  rw [front, valid, valid']
  rfl

theorem mem_path {cs : List Char} : cs ∈ path ↔ isWordPath cs = true := by
  rw [path, mul_add, mul_one, Language.mem_add, Language.mem_mul]
  simp only [mem_one_mul, mem_word]
  constructor
  · rintro (valid | ⟨first, valid, _, ⟨_, second, rfl, rfl, valid'⟩, rfl⟩)
    · exact isWordPath_of_word valid
    · exact isWordPath_of_two valid valid'
  · intro valid
    rcases isWordPath_cases valid with word | ⟨first, second, rfl, word, word'⟩
    · exact Or.inl word
    · exact Or.inr ⟨first, word, _, ⟨_, second, rfl, rfl, word'⟩, rfl⟩

/-- No path begins with an at sign, so the sign is never part of a word. -/
theorem isWordPath_at (rest : List Char) : isWordPath ('@' :: rest) = false := by
  rw [Bool.eq_false_iff]
  intro valid
  rcases isWordPath_cases valid with word | ⟨first, second, split, word, _⟩
  · cases word
  · cases first with
    | nil => cases word
    | cons c first =>
      obtain ⟨rfl, _⟩ := List.cons.inj split
      cases word

theorem mem_name {cs : List Char} : cs ∈ name ↔ isNameChars cs = true := by
  rw [name, mem_one_add_mul]
  simp only [mem_path]
  unfold isNameChars
  split
  · rename_i rest
    rw [isWordPath_at]
    simp
  · rename_i bare
    constructor
    · rintro (valid | ⟨_, rest, rfl, rfl, _⟩)
      · exact valid
      · exact absurd rfl (bare rest)
    · exact Or.inl

theorem marks_of_isValidName {s : String} (valid : isValidName s = true) :
    '.' ∉ s.toList ∧ s.toList.count '/' ≤ 1 := by
  rcases isNameChars_cases valid with plain | ⟨first, second, split, plain, plain'⟩
  · exact ⟨plain.dot, by rw [List.count_eq_zero.mpr plain.slash]; exact Nat.zero_le 1⟩
  · rw [split, List.count_append, List.count_cons_self, List.count_eq_zero.mpr plain.slash, List.count_eq_zero.mpr plain'.slash]
    exact ⟨by simp [plain.dot, plain'.dot], Nat.le_refl 1⟩

/-- A text is a valid name just when it is in the language of names, from its first character to its last. So no valid
name has a dot, an empty part or two slashes. -/
theorem isValidName_iff (s : String) :
    (isValidName s = true ↔ s.toList ∈ Grammar.name) ∧
      (isValidName s = true → '.' ∉ s.toList ∧ [] ∉ Path.parts s ∧ s.toList.count '/' ≤ 1) := by
  refine ⟨mem_name.symm, fun valid => ?_⟩
  obtain ⟨dot, slashes⟩ := marks_of_isValidName valid
  obtain ⟨_, spelled⟩ := spelled_of_isValidName valid
  exact ⟨dot, spelled.nil_not_mem, slashes⟩

/-- A name of two words, and one that a line feed follows. -/
theorem isValidName_iff_of_two_words :
    "@team/no-let_2".toList ∈ Grammar.name ∧ [] ∉ Path.parts "@team/no-let_2" ∧ "no-let\n".toList ∉ Grammar.name := by
  have valid : isValidName "@team/no-let_2" = true := by decide +kernel
  have invalid : isValidName "no-let\n" = false := by decide +kernel
  obtain ⟨named, marks⟩ := isValidName_iff "@team/no-let_2"
  refine ⟨named.mp valid, (marks valid).2.1, fun member => ?_⟩
  rw [(isValidName_iff "no-let\n").1.mpr member] at invalid
  cases invalid

end PolicyLint.Rule
