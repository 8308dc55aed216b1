import Mathlib.Data.List.Basic
import PolicyLint.Path
import PolicyLint.Proofs.Sorting

/-!
# Paths and their steps

Steps are ordered from the first one on, and any two paths are comparable. A path is displayed by its steps alone,
and what is displayed has the same steps again, `steps_display`. So paths are displayed alike only if they have the
same steps.
-/

namespace PolicyLint

/-! ### The order of steps -/

namespace Step

theorem lt_irrefl (s : Step) : s.lt s = false := by
  cases s with
  | name n => exact decide_eq_false (String.lt_irrefl n)
  | _ => rfl

theorem lt_trans {a b c : Step} (first : a.lt b = true) (second : b.lt c = true) : a.lt c = true := by
  cases a <;> cases b <;> cases c
  case name.name.name =>
    exact decide_eq_true (String.lt_trans (of_decide_eq_true first) (of_decide_eq_true second))
  all_goals simp_all [Step.lt, rank]

theorem lt_or_lt {a b : Step} (different : a ≠ b) : a.lt b = true ∨ b.lt a = true := by
  cases a <;> cases b
  case name.name m n =>
    by_cases less : m < n
    · exact Or.inl (decide_eq_true less)
    by_cases less' : n < m
    · exact Or.inr (decide_eq_true less')
    · exact absurd (congrArg name (String.le_antisymm (String.not_lt.mp less') (String.not_lt.mp less))) different
  all_goals simp_all [Step.lt, rank]

theorem lt_asymm {a b : Step} (first : a.lt b = true) (second : b.lt a = true) : False := by
  have same := lt_trans first second
  rw [lt_irrefl] at same
  cases same

end Step

theorem stepsLe_cons_same (s : Step) (as bs : List Step) : stepsLe (s :: as) (s :: bs) = stepsLe as bs := if_pos rfl

theorem stepsLe_cons_other {a b : Step} (different : a ≠ b) (as bs : List Step) :
    stepsLe (a :: as) (b :: bs) = a.lt b := if_neg different

theorem stepsLe_trans {as bs cs : List Step} (first : stepsLe as bs = true) (second : stepsLe bs cs = true) :
    stepsLe as cs = true := by
  induction as generalizing bs cs with
  | nil => rfl
  | cons a as ih =>
    cases bs with
    | nil => cases first
    | cons b bs =>
      cases cs with
      | nil => cases second
      | cons c cs =>
        by_cases here : a = b <;> by_cases there : b = c
        · subst here there
          rw [stepsLe_cons_same] at first second ⊢
          exact ih first second
        · subst here
          rwa [stepsLe_cons_other there] at second ⊢
        · subst there
          rwa [stepsLe_cons_other here] at first ⊢
        · rw [stepsLe_cons_other here] at first
          rw [stepsLe_cons_other there] at second
          have apart : a ≠ c := by
            rintro rfl
            exact Step.lt_asymm first second
          rw [stepsLe_cons_other apart]
          exact Step.lt_trans first second

theorem stepsLe_total (as bs : List Step) : (stepsLe as bs || stepsLe bs as) = true := by
  induction as generalizing bs with
  | nil => rfl
  | cons a as ih =>
    cases bs with
    | nil => rfl
    | cons b bs =>
      by_cases same : a = b
      · subst same
        rw [stepsLe_cons_same, stepsLe_cons_same]
        exact ih bs
      · rw [stepsLe_cons_other same, stepsLe_cons_other (Ne.symm same), Bool.or_eq_true]
        exact Step.lt_or_lt same

theorem stepsLe_antisymm {as bs : List Step} (first : stepsLe as bs = true) (second : stepsLe bs as = true) : as = bs := by
  induction as generalizing bs with
  | nil =>
    cases bs with
    | nil => rfl
    | cons b bs => cases second
  | cons a as ih =>
    cases bs with
    | nil => cases first
    | cons b bs =>
      by_cases same : a = b
      · subst same
        rw [stepsLe_cons_same] at first second
        rw [ih first second]
      · rw [stepsLe_cons_other same] at first
        rw [stepsLe_cons_other (Ne.symm same)] at second
        exact (Step.lt_asymm first second).elim

theorem keyOrder_stepsLe : KeyOrder stepsLe where
  trans _ _ _ := stepsLe_trans
  total := stepsLe_total
  antisymm _ _ := stepsLe_antisymm

/-! ### Parts and what they stand for -/

namespace Path

theorem partsOf_ne_nil (cs : List Char) : partsOf cs ≠ [] := by
  cases cs with
  | nil => exact List.cons_ne_nil _ _
  | cons c rest =>
    rw [partsOf]
    split
    · exact List.cons_ne_nil _ _
    · split <;> exact List.cons_ne_nil _ _

theorem slash_not_mem_of_mem_partsOf {cs part : List Char} (member : part ∈ partsOf cs) : '/' ∉ part := by
  induction cs generalizing part with
  | nil =>
    obtain rfl := List.mem_singleton.mp member
    exact List.not_mem_nil
  | cons c rest ih =>
    rw [partsOf] at member
    split at member
    · rcases List.mem_cons.mp member with rfl | later
      · exact List.not_mem_nil
      · exact ih later
    · rename_i other
      split at member
      · rename_i none
        exact absurd none (partsOf_ne_nil rest)
      · rename_i first others split
        rw [split, List.forall_mem_cons] at ih
        rcases List.mem_cons.mp member with rfl | later
        · rw [List.mem_cons, not_or]
          exact ⟨Ne.symm other, ih.1⟩
        · exact ih.2 part later

theorem partsOf_of_free {part : List Char} (free : '/' ∉ part) : partsOf part = [part] := by
  induction part with
  | nil => rfl
  | cons c part ih =>
    rw [List.mem_cons, not_or] at free
    rw [partsOf, if_neg (Ne.symm free.1), ih free.2]

theorem partsOf_append {part : List Char} (free : '/' ∉ part) (rest : List Char) :
    partsOf (part ++ '/' :: rest) = part :: partsOf rest := by
  induction part with
  | nil => rfl
  | cons c part ih =>
    rw [List.mem_cons, not_or] at free
    rw [List.cons_append, partsOf, if_neg (Ne.symm free.1), ih free.2]

theorem partsOf_intercalate {parts : List (List Char)} (some : parts ≠ []) (free : ∀ part ∈ parts, '/' ∉ part) :
    partsOf (List.intercalate ['/'] parts) = parts := by
  induction parts with
  | nil => exact absurd rfl some
  | cons part parts ih =>
    rw [List.forall_mem_cons] at free
    cases parts with
    | nil => rw [List.intercalate_singleton, partsOf_of_free free.1]
    | cons next parts =>
      rw [List.intercalate_cons_cons, List.append_assoc, List.singleton_append, partsOf_append free.1,
        ih (List.cons_ne_nil _ _) free.2]

end Path

namespace Step

structure Named (s : Step) : Prop where
  part : ofPart? s.text.toList = some s
  free : '/' ∉ s.text.toList

theorem text_of_ofPart? {part : List Char} {s : Step} (stands : ofPart? part = some s) : s.text.toList = part := by
  unfold ofPart? at stands
  split at stands
  · cases stands
  · split at stands
    · obtain rfl := Option.some.inj stands
      subst part
      rfl
    · obtain rfl := Option.some.inj stands
      exact String.toList_ofList

theorem named_of_ofPart? {part : List Char} {s : Step} (stands : ofPart? part = some s) (free : '/' ∉ part) : s.Named := by
  obtain rfl := text_of_ofPart? stands
  exact ⟨stands, free⟩

theorem named_of_mem_filterMap {parts : List (List Char)} (free : ∀ part ∈ parts, '/' ∉ part) {s : Step}
    (member : s ∈ parts.filterMap ofPart?) : s.Named := by
  obtain ⟨part, there, stands⟩ := List.mem_filterMap.mp member
  exact named_of_ofPart? stands (free part there)

theorem filterMap_texts {ss : List Step} (named : ∀ s ∈ ss, s.Named) :
    (ss.map fun s => s.text.toList).filterMap ofPart? = ss := by
  induction ss with
  | nil => rfl
  | cons s ss ih =>
    rw [List.forall_mem_cons] at named
    rw [List.map_cons, List.filterMap_cons_some named.1.part, ih named.2]

end Step

/-! ### Displayed paths -/

namespace Path

open Step (Named)

/-- Steps as they come out of a path: only the first one can be the root or a single dot. -/
inductive Regular : List Step → Prop where
  | none : Regular []
  | root {rest : List Step} : (∀ s ∈ rest, s.Named) → Regular (.root :: rest)
  | here {rest : List Step} : (∀ s ∈ rest, s.Named) → Regular (.here :: rest)
  | named {first : Step} {rest : List Step} : first.Named → (∀ s ∈ rest, s.Named) → Regular (first :: rest)

theorem regular_steps (path : String) : Regular (steps path) := by
  have free : ∀ part ∈ parts path, '/' ∉ part := fun part member => slash_not_mem_of_mem_partsOf member
  unfold steps
  split
  · exact .none
  · exact .none
  · rename_i rest _ split
    rw [split, List.forall_mem_cons] at free
    exact .root fun s member => Step.named_of_mem_filterMap free.2 member
  · rename_i first rest _ _ split
    rw [split, List.forall_mem_cons] at free
    have later : ∀ s ∈ rest.filterMap Step.ofPart?, s.Named := fun s member => Step.named_of_mem_filterMap free.2 member
    by_cases dot : first = ['.']
    · rw [if_pos dot]
      exact .here later
    · rw [if_neg dot]
      cases stands : Step.ofPart? first with
      | none =>
        have empty : first = [] := by
          unfold Step.ofPart? at stands
          split at stands
          · simp_all
          · split at stands <;> cases stands
        simp_all
      | some s => exact .named (Step.named_of_ofPart? stands free.1) later

theorem steps_of_parts {path : String} {first : List Char} {rest : List (List Char)} (some : first ≠ [])
    (split : parts path = first :: rest) :
    steps path = (if first = ['.'] then .some .here else Step.ofPart? first).toList ++ rest.filterMap Step.ofPart? := by
  unfold steps
  rw [split]
  split <;> simp_all

theorem toList_intercalate_texts (ss : List Step) :
    (String.intercalate "/" (ss.map Step.text)).toList = List.intercalate ['/'] (ss.map fun s => s.text.toList) := by
  rw [String.toList_intercalate, List.map_map]
  rfl

theorem free_texts {ss : List Step} (named : ∀ s ∈ ss, s.Named) : ∀ part ∈ ss.map fun s => s.text.toList, '/' ∉ part := by
  intro part member
  obtain ⟨s, there, rfl⟩ := List.mem_map.mp member
  exact (named s there).free

theorem steps_intercalate {ss : List Step} (regular : Regular ss) :
    steps (String.intercalate "/" (ss.map Step.text)) = ss := by
  cases regular with
  | none => rfl
  | @root rest named =>
    -- a slash in front of the parts, of which the first one is empty
    have split : parts (String.intercalate "/" ((Step.root :: rest).map Step.text)) =
        [] :: [] :: rest.map fun s => s.text.toList := by
      have chars : List.intercalate ['/'] (['/'] :: rest.map fun s => s.text.toList) =
          '/' :: List.intercalate ['/'] ([] :: rest.map fun s => s.text.toList) := by
        cases rest <;> rfl
      rw [parts, toList_intercalate_texts]
      refine (congrArg partsOf chars).trans ?_
      rw [partsOf, if_pos rfl, partsOf_intercalate (List.cons_ne_nil _ _)]
      exact List.forall_mem_cons.mpr ⟨List.not_mem_nil, free_texts named⟩
    unfold steps
    rw [split]
    exact congrArg (Step.root :: ·) (Step.filterMap_texts named)
  | @here rest named =>
    have split : parts (String.intercalate "/" ((Step.here :: rest).map Step.text)) =
        ['.'] :: rest.map fun s => s.text.toList := by
      rw [parts, toList_intercalate_texts, partsOf_intercalate (by simp)]
      · rfl
      · exact List.forall_mem_cons.mpr ⟨by decide, free_texts named⟩
    rw [steps_of_parts (List.cons_ne_nil _ _) split, if_pos rfl, Step.filterMap_texts named]
    rfl
  | @named first rest name named =>
    have split : parts (String.intercalate "/" ((first :: rest).map Step.text)) =
        first.text.toList :: rest.map fun s => s.text.toList := by
      rw [parts, toList_intercalate_texts, partsOf_intercalate (by simp)]
      · rfl
      · exact List.forall_mem_cons.mpr ⟨name.free, free_texts named⟩
    have some : first.text.toList ≠ [] ∧ first.text.toList ≠ ['.'] := by
      constructor <;> intro none <;> have part := name.part <;> rw [none] at part <;> cases part
    rw [steps_of_parts some.1 split, if_neg some.2, name.part, Step.filterMap_texts named]
    rfl

/-- What is displayed of a path means the same path. -/
theorem steps_display (path : String) : steps (display path) = steps path :=
  steps_intercalate (regular_steps path)

theorem display_eq_display {a b : String} : display a = display b ↔ steps a = steps b := by
  constructor
  · intro same
    rw [← steps_display a, ← steps_display b, same]
  · intro same
    rw [display, display, same]

end Path

end PolicyLint
