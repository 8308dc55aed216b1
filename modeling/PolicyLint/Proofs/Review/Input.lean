import Mathlib.Data.List.Nodup
import PolicyLint.Rule.Validation

/-!
# Accepted input

Rules are accepted if there are some, with valid names that are distinct. Files are accepted if their paths are
distinct. The message about what is not accepted is about the first offence: rules come before files, files before the
bounds, and of the rules the first one that offends.
-/

namespace PolicyLint

structure WellNamed (rules : List Rule) : Prop where
  valid : ∀ rule ∈ rules, Rule.isValidName rule.name = true
  distinct : (rules.map Rule.name).Nodup

/-- The first thing that is wrong with rules, and the message about it. The rules before are in order. -/
inductive RuleOffence : List Rule → String → Prop where
  | none : RuleOffence [] "No rules configured"
  | invalid {before after : List Rule} {rule : Rule} (sound : WellNamed before)
      (wrong : Rule.isValidName rule.name = false) :
      RuleOffence (before ++ rule :: after) ("Invalid rule name '" ++ rule.name ++ "'")
  | duplicate {before after : List Rule} {rule : Rule} (sound : WellNamed before)
      (right : Rule.isValidName rule.name = true) (seen : rule.name ∈ before.map Rule.name) :
      RuleOffence (before ++ rule :: after) ("Duplicate rule name '" ++ rule.name ++ "'")

/-- The first thing that is wrong with a request, and the message about it. A request is `idle` if it asks that
nothing be done at once. -/
inductive Offence (idle : Prop) : List SourceFile → List Rule → String → Prop where
  | rule {files : List SourceFile} {rules : List Rule} {message : String} (offence : RuleOffence rules message) :
      Offence idle files rules message
  | path {before after : List SourceFile} {file : SourceFile} {rules : List Rule} (some : rules ≠ [])
      (sound : WellNamed rules) (distinct : (before.map SourceFile.path).Nodup)
      (seen : file.path ∈ before.map SourceFile.path) :
      Offence idle (before ++ file :: after) rules ("Duplicate file path '" ++ file.path ++ "'")
  | bound {files : List SourceFile} {rules : List Rule} (some : rules ≠ []) (sound : WellNamed rules)
      (distinct : (files.map SourceFile.path).Nodup) (isIdle : idle) :
      Offence idle files rules "Concurrency must be at least 1"

def Faulty (idle : Prop) (files : List SourceFile) (rules : List Rule) : Prop :=
  rules = [] ∨ (∃ rule ∈ rules, Rule.isValidName rule.name = false) ∨ ¬(rules.map Rule.name).Nodup ∨
    ¬(files.map SourceFile.path).Nodup ∨ idle

variable {idle : Prop} {files : List SourceFile} {rules : List Rule}

theorem not_nodup_of_seen {α : Type} {f : α → String} {before after : List α} {a : α} (seen : f a ∈ before.map f) :
    ¬((before ++ a :: after).map f).Nodup := by
  rw [List.map_append, List.map_cons]
  intro distinct
  exact (List.nodup_append.mp distinct).2.2 _ seen _ List.mem_cons_self rfl

theorem Offence.faulty {message : String} (offence : Offence idle files rules message) : Faulty idle files rules := by
  cases offence with
  | rule offence =>
    cases offence with
    | none => exact Or.inl rfl
    | invalid _ wrong => exact Or.inr (Or.inl ⟨_, by simp, wrong⟩)
    | duplicate _ _ seen => exact Or.inr (Or.inr (Or.inl (not_nodup_of_seen seen)))
  | path _ _ _ seen => exact Or.inr (Or.inr (Or.inr (Or.inl (not_nodup_of_seen seen))))
  | bound _ _ _ isIdle => exact Or.inr (Or.inr (Or.inr (Or.inr isIdle)))

theorem not_faulty (some : rules ≠ []) (sound : WellNamed rules) (distinct : (files.map SourceFile.path).Nodup)
    (busy : ¬idle) : ¬Faulty idle files rules := by
  rintro (none | ⟨rule, member, wrong⟩ | same | same | isIdle)
  · exact some none
  · exact absurd (sound.valid rule member) (by simp [wrong])
  · exact same sound.distinct
  · exact same distinct
  · exact busy isIdle

/-! ### Validation -/

theorem validateNames_cases {before : List Rule} (sound : WellNamed before) (rest : List Rule) :
    validateNames (before.map Rule.name).reverse rest = .ok () ∧ WellNamed (before ++ rest) ∨
      ∃ fault, validateNames (before.map Rule.name).reverse rest = .error fault ∧
        RuleOffence (before ++ rest) fault.message := by
  -- `before` has the rules that were seen, the last one first in what the loop carries along.
  induction rest generalizing before with
  | nil =>
    rw [List.append_nil]
    exact Or.inl ⟨rfl, sound⟩
  | cons rule rest ih =>
    cases valid : Rule.isValidName rule.name with
    | false =>
      refine Or.inr ⟨.invalidRuleName rule.name, ?_, .invalid sound valid⟩
      rw [validateNames, valid]
      rfl
    | true =>
      by_cases seen : rule.name ∈ before.map Rule.name
      · refine Or.inr ⟨.duplicateRule rule.name, ?_, .duplicate sound valid seen⟩
        rw [validateNames, valid, if_neg (by decide), if_pos (by simpa using seen)]
      · have next : WellNamed (before ++ [rule]) := by
          refine ⟨?_, ?_⟩
          · intro other member
            rcases List.mem_append.mp member with old | here
            · exact sound.valid other old
            · rwa [List.mem_singleton.mp here]
          · rw [List.map_append, List.map_singleton, ← List.concat_eq_append]
            exact sound.distinct.concat seen
        have step : validateNames (before.map Rule.name).reverse (rule :: rest) =
            validateNames ((before ++ [rule]).map Rule.name).reverse rest := by
          rw [validateNames, valid, if_neg (by decide), if_neg (by simpa using seen), List.map_append,
            List.reverse_append]
          rfl
        have later := ih next
        rw [List.append_assoc] at later
        rw [step]
        exact later

theorem validateRules_cases (rules : List Rule) :
    validateRules rules = .ok () ∧ rules ≠ [] ∧ WellNamed rules ∨
      ∃ fault, validateRules rules = .error fault ∧ RuleOffence rules fault.message := by
  cases rules with
  | nil => exact Or.inr ⟨.noRules, rfl, .none⟩
  | cons rule rest =>
    have start : WellNamed [] := ⟨by simp, List.nodup_nil⟩
    rcases validateNames_cases start (rule :: rest) with ⟨valid, sound⟩ | refused
    · exact Or.inl ⟨valid, List.cons_ne_nil _ _, sound⟩
    · exact Or.inr refused

theorem validatePaths_cases {before : List SourceFile} (distinct : (before.map SourceFile.path).Nodup)
    (rest : List SourceFile) :
    validatePaths (before.map SourceFile.path).reverse rest = .ok () ∧ ((before ++ rest).map SourceFile.path).Nodup ∨
      ∃ earlier file after, before ++ rest = earlier ++ file :: after ∧ (earlier.map SourceFile.path).Nodup ∧
        file.path ∈ earlier.map SourceFile.path ∧
        validatePaths (before.map SourceFile.path).reverse rest = .error (.duplicatePath file.path) := by
  induction rest generalizing before with
  | nil =>
    rw [List.append_nil]
    exact Or.inl ⟨rfl, distinct⟩
  | cons file rest ih =>
    by_cases seen : file.path ∈ before.map SourceFile.path
    · refine Or.inr ⟨before, file, rest, rfl, distinct, seen, ?_⟩
      rw [validatePaths, if_pos (by simpa using seen)]
    · have next : ((before ++ [file]).map SourceFile.path).Nodup := by
        rw [List.map_append, List.map_singleton, ← List.concat_eq_append]
        exact distinct.concat seen
      have step : validatePaths (before.map SourceFile.path).reverse (file :: rest) =
          validatePaths ((before ++ [file]).map SourceFile.path).reverse rest := by
        rw [validatePaths, if_neg (by simpa using seen), List.map_append, List.reverse_append]
        rfl
      have later := ih next
      rw [List.append_assoc] at later
      rw [step]
      exact later

theorem validateInputs_cases (idle : Prop) (files : List SourceFile) (rules : List Rule) :
    validateInputs files rules = .ok () ∧ rules ≠ [] ∧ WellNamed rules ∧ (files.map SourceFile.path).Nodup ∨
      ∃ fault, validateInputs files rules = .error fault ∧ Offence idle files rules fault.message := by
  rcases validateRules_cases rules with ⟨valid, some, sound⟩ | ⟨fault, refused, offence⟩
  · have start : (([] : List SourceFile).map SourceFile.path).Nodup := List.nodup_nil
    rcases validatePaths_cases start files with ⟨paths, distinct⟩ |
      ⟨before, file, after, split, distinct, seen, refused⟩
    · refine Or.inl ⟨?_, some, sound, distinct⟩
      rw [validateInputs, valid]
      exact paths
    · rw [List.nil_append] at split
      subst split
      refine Or.inr ⟨.duplicatePath file.path, ?_, .path some sound distinct seen⟩
      rw [validateInputs, valid]
      exact refused
  · refine Or.inr ⟨fault, ?_, .rule offence⟩
    rw [validateInputs, refused]
    rfl

theorem validateInputs_ok (some : rules ≠ []) (valid : ∀ rule ∈ rules, Rule.isValidName rule.name = true)
    (distinct : (rules.map Rule.name).Nodup) (paths : (files.map SourceFile.path).Nodup) :
    validateInputs files rules = .ok () := by
  rcases validateInputs_cases False files rules with ⟨accepted, _⟩ | ⟨fault, _, offence⟩
  · exact accepted
  · exact absurd offence.faulty (not_faulty some ⟨valid, distinct⟩ paths id)

theorem names_of_validateRules (accepted : validateRules rules = .ok ()) : (rules.map Rule.name).Nodup := by
  rcases validateRules_cases rules with ⟨_, _, sound⟩ | ⟨fault, refused, _⟩
  · exact sound.distinct
  · rw [refused] at accepted
    exact absurd accepted (by simp)

theorem distinct_of_validateInputs (accepted : validateInputs files rules = .ok ()) :
    (rules.map Rule.name).Nodup ∧ (files.map SourceFile.path).Nodup := by
  rcases validateInputs_cases False files rules with ⟨_, _, sound, paths⟩ | ⟨fault, refused, _⟩
  · exact ⟨sound.distinct, paths⟩
  · rw [refused] at accepted
    exact absurd accepted (by simp)

end PolicyLint
