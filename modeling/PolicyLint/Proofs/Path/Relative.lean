import PolicyLint.Proofs.Path

/-!
# Paths below a base

A path that is spelled by names leads downwards only. Joined to a base and seen from it again it is what it was,
`relativeTo_join`, however the base is written.
-/

namespace PolicyLint.Path

/-! ### Parts -/

theorem intercalate_partsOf (cs : List Char) : List.intercalate ['/'] (partsOf cs) = cs := by
  induction cs with
  | nil => rfl
  | cons c rest ih =>
    obtain ⟨part, parts, split⟩ := List.exists_cons_of_ne_nil (partsOf_ne_nil rest)
    rw [split] at ih
    rw [partsOf, split]
    by_cases slash : c = '/'
    · rw [if_pos slash, List.intercalate_cons_cons, ih, slash]
      rfl
    · rw [if_neg slash]
      cases parts with
      | nil => simpa using ih
      | cons next parts => simpa [List.intercalate_cons_cons] using ih

theorem partsOf_append_slash (cs rest : List Char) : partsOf (cs ++ '/' :: rest) = partsOf cs ++ partsOf rest := by
  induction cs with
  | nil => rfl
  | cons c cs ih =>
    obtain ⟨part, parts, split⟩ := List.exists_cons_of_ne_nil (partsOf_ne_nil cs)
    rw [split] at ih
    rw [List.cons_append, partsOf, partsOf, ih, split]
    by_cases slash : c = '/'
    · rw [if_pos slash, if_pos slash]
      rfl
    · rw [if_neg slash, if_neg slash]
      rfl

/-! ### Names -/

structure Spelled (path : String) (names : List String) : Prop where
  parts : parts path = names.map String.toList
  named : ∀ n ∈ names, Step.ofPart? n.toList = some (.name n)

namespace Spelled

variable {path path' : String} {names names' : List String}

theorem of_name {name : String} (named : Step.ofPart? name.toList = some (.name name)) (free : '/' ∉ name.toList) :
    Spelled name [name] := by
  refine ⟨partsOf_of_free free, ?_⟩
  simpa using named

theorem counts (spelled : Spelled path names) {part : List Char} (member : part ∈ Path.parts path) :
    Step.ofPart? part ≠ none := by
  rw [spelled.parts] at member
  obtain ⟨n, there, rfl⟩ := List.mem_map.mp member
  rw [spelled.named n there]
  exact nofun

theorem nil_not_mem (spelled : Spelled path names) : [] ∉ Path.parts path := fun member => spelled.counts member rfl

theorem ne_nil (spelled : Spelled path names) : names ≠ [] := by
  rintro rfl
  exact partsOf_ne_nil path.toList spelled.parts

theorem isAbsolute (spelled : Spelled path names) : Path.isAbsolute path = false := by
  unfold Path.isAbsolute
  rw [decide_eq_false_iff_not]
  intro first
  obtain ⟨rest, split⟩ := List.head?_eq_some_iff.mp first
  refine spelled.nil_not_mem ?_
  rw [Path.parts, split, partsOf, if_pos rfl]
  exact List.mem_cons_self

theorem toList_ne_nil (spelled : Spelled path names) : path.toList ≠ [] := by
  intro none
  refine spelled.nil_not_mem ?_
  rw [Path.parts, none]
  exact List.mem_singleton_self _

theorem getLast? (spelled : Spelled path names) : path.toList.getLast? ≠ some '/' := by
  intro last
  obtain ⟨front, split⟩ := List.getLast?_eq_some_iff.mp last
  refine spelled.nil_not_mem ?_
  rw [Path.parts, split, partsOf_append_slash]
  exact List.mem_append_right _ (List.mem_singleton_self _)

theorem filterMap_map (named : ∀ n ∈ names, Step.ofPart? n.toList = some (.name n)) :
    (names.map String.toList).filterMap Step.ofPart? = names.map Step.name := by
  induction names with
  | nil => rfl
  | cons n names ih =>
    rw [List.forall_mem_cons] at named
    rw [List.map_cons, List.filterMap_cons_some named.1, ih named.2, List.map_cons]

theorem steps (spelled : Spelled path names) : Path.steps path = names.map Step.name := by
  obtain ⟨n, rest, rfl⟩ := List.exists_cons_of_ne_nil spelled.ne_nil
  have named := List.forall_mem_cons.mp spelled.named
  have full : n.toList ≠ [] := by
    intro none
    rw [none] at named
    cases named.1
  have dot : n.toList ≠ ['.'] := by
    intro dot
    rw [dot] at named
    cases named.1
  rw [steps_of_parts full spelled.parts, if_neg dot, named.1, filterMap_map named.2]
  rfl

theorem unique (spelled : Spelled path names) (spelled' : Spelled path' names) : path = path' := by
  rw [← String.toList_inj, ← intercalate_partsOf path.toList, ← intercalate_partsOf path'.toList]
  exact congrArg _ (spelled.parts.trans spelled'.parts.symm)

theorem append (spelled : Spelled path names) (spelled' : Spelled path' names') :
    Spelled (path ++ "/" ++ path') (names ++ names') := by
  constructor
  · have chars : (path ++ "/" ++ path').toList = path.toList ++ '/' :: path'.toList := by simp
    rw [Path.parts, chars, partsOf_append_slash, List.map_append, ← spelled.parts, ← spelled'.parts]
    rfl
  · intro n member
    exact (List.mem_append.mp member).elim (spelled.named n) (spelled'.named n)

theorem display (spelled : Spelled path names) : Path.display path = path := by
  rw [← String.toList_inj, Path.display, toList_intercalate_texts, spelled.steps, List.map_map]
  exact (congrArg _ spelled.parts.symm).trans (intercalate_partsOf path.toList)

end Spelled

/-! ### Joined paths -/

variable {path path' base : String} {names names' : List String}

theorem join_of_ne_nil (written : base.toList ≠ []) (last : base.toList.getLast? ≠ some '/')
    (relative : isAbsolute path = false) : join base path = base ++ "/" ++ path := by
  have full : base.isEmpty = false := by
    rw [← Bool.not_eq_true, String.isEmpty_iff]
    rintro rfl
    exact written rfl
  unfold join
  simp [relative, full, last]

theorem join_of_getLast? (last : base.toList.getLast? = some '/') (relative : isAbsolute path = false) :
    join base path = base ++ path := by
  have full : base.isEmpty = false := by
    rw [← Bool.not_eq_true, String.isEmpty_iff]
    rintro rfl
    cases last
  unfold join
  simp [relative, full, last]

theorem join_empty (path : String) : join "" path = path := by
  unfold join
  simp

theorem toList_join (written : base.toList ≠ []) (relative : isAbsolute path = false) :
    ∃ between, (between = [] ∨ between = ['/']) ∧ (join base path).toList = base.toList ++ (between ++ path.toList) := by
  by_cases last : base.toList.getLast? = some '/'
  · exact ⟨[], Or.inl rfl, by rw [join_of_getLast? last relative]; simp⟩
  · exact ⟨['/'], Or.inr rfl, by rw [join_of_ne_nil written last relative]; simp⟩

theorem join_join (base : String) (spelled : Spelled path names) (spelled' : Spelled path' names') :
    join (join base path) path' = join base (path ++ "/" ++ path') := by
  have both := spelled.append spelled'
  have ends : ∀ front : String, (front ++ path).toList ≠ [] ∧ (front ++ path).toList.getLast? ≠ some '/' := by
    intro front
    rw [String.toList_append, List.getLast?_append_of_ne_nil _ spelled.toList_ne_nil]
    exact ⟨List.append_ne_nil_of_right_ne_nil _ spelled.toList_ne_nil, spelled.getLast?⟩
  by_cases written : base.toList = []
  · obtain rfl := String.toList_eq_nil_iff.mp written
    rw [join_empty, join_empty, join_of_ne_nil spelled.toList_ne_nil spelled.getLast? spelled'.isAbsolute]
  by_cases last : base.toList.getLast? = some '/'
  · rw [join_of_getLast? last spelled.isAbsolute, join_of_getLast? last both.isAbsolute,
      join_of_ne_nil (ends base).1 (ends base).2 spelled'.isAbsolute]
    simp only [String.append_assoc]
  · rw [join_of_ne_nil written last spelled.isAbsolute, join_of_ne_nil written last both.isAbsolute,
      join_of_ne_nil (ends _).1 (ends _).2 spelled'.isAbsolute]
    simp only [String.append_assoc]

/-- The parts of a joined path are some of the base's, up to one that counts for nothing, and those of the path. -/
theorem parts_join (written : base.toList ≠ []) : ∃ front blanks, parts base = front ++ blanks ∧ front ≠ [] ∧
    blanks.filterMap Step.ofPart? = [] ∧
    ∀ path, isAbsolute path = false → parts (join base path) = front ++ parts path := by
  by_cases last : base.toList.getLast? = some '/'
  · obtain ⟨front, split⟩ := List.getLast?_eq_some_iff.mp last
    refine ⟨partsOf front, [[]], ?_, partsOf_ne_nil front, rfl, fun path relative => ?_⟩
    · rw [parts, split, partsOf_append_slash]
      rfl
    · rw [join_of_getLast? last relative, parts, String.toList_append, split, List.append_assoc, List.singleton_append,
        partsOf_append_slash]
      rfl
  · refine ⟨parts base, [], (List.append_nil _).symm, partsOf_ne_nil _, rfl, fun path relative => ?_⟩
    have chars : (base ++ "/" ++ path).toList = base.toList ++ '/' :: path.toList := by simp
    rw [join_of_ne_nil written last relative, parts, chars, partsOf_append_slash]
    rfl

theorem behind_filterMap (front rest : List (List Char)) :
    behind (front.filterMap Step.ofPart?) (front ++ rest) = some (rest.dropWhile fun part => (Step.ofPart? part).isNone) := by
  induction front with
  | nil => rw [List.filterMap_nil, List.nil_append, behind]
  | cons part front ih =>
    cases stands : Step.ofPart? part with
    | none =>
      rw [List.filterMap_cons_none stands, ← ih]
      cases front.filterMap Step.ofPart? with
      | nil => simp [behind, stands]
      | cons s later => simp [behind, stands]
    | some s =>
      rw [List.filterMap_cons_some stands, List.cons_append, behind, ← ih]
      simp [stands]

theorem settle_of_counts {part : List Char} (counts : Step.ofPart? part ≠ none) (rest : List (List Char)) :
    settle (part :: rest) = part :: rest := by
  cases rest with
  | nil => rfl
  | cons next rest =>
    rw [settle, if_neg (by rwa [Option.isNone_iff_eq_none])]
    exact List.cons_ne_nil _ _

namespace Spelled

theorem dropWhile_parts (spelled : Spelled path names) :
    (Path.parts path).dropWhile (fun part => (Step.ofPart? part).isNone) = Path.parts path := by
  obtain ⟨part, rest, split⟩ := List.exists_cons_of_ne_nil (partsOf_ne_nil path.toList)
  have counts : Step.ofPart? part ≠ none := spelled.counts (by rw [Path.parts, split]; exact List.mem_cons_self)
  rw [Path.parts, split, List.dropWhile_cons_of_neg (by rwa [Option.isNone_iff_eq_none])]

theorem ofList_settle (spelled : Spelled path names) :
    String.ofList (List.intercalate ['/'] (settle (Path.parts path).reverse).reverse) = path := by
  have kept : settle (Path.parts path).reverse = (Path.parts path).reverse := by
    obtain ⟨part, rest, split⟩ := List.exists_cons_of_ne_nil (mt List.reverse_eq_nil_iff.mp (partsOf_ne_nil path.toList))
    rw [show (Path.parts path).reverse = part :: rest from split]
    refine settle_of_counts (spelled.counts ?_) rest
    rw [← List.mem_reverse]
    exact split ▸ List.mem_cons_self
  rw [kept, List.reverse_reverse, Path.parts, intercalate_partsOf, String.ofList_toList]

end Spelled

theorem steps_of_root {rest : List (List Char)} (more : rest ≠ []) (split : parts path = [] :: rest) :
    steps path = .root :: rest.filterMap Step.ofPart? := by
  unfold steps
  rw [split]
  split <;> simp_all

/-- A path of names is seen from the base to which it was joined. -/
theorem relativeTo_join (base : String) (spelled : Spelled path names) : relativeTo (join base path) base = path := by
  by_cases written : base.toList = []
  · obtain rfl := String.toList_eq_nil_iff.mp written
    rw [join_empty]
    exact spelled.ofList_settle
  obtain ⟨front, blanks, split, more, skipped, joined⟩ := parts_join written
  obtain ⟨first, front, rfl⟩ := List.exists_cons_of_ne_nil more
  have later : (front ++ blanks).filterMap Step.ofPart? = front.filterMap Step.ofPart? := by
    rw [List.filterMap_append, skipped, List.append_nil]
  have seen := (behind_filterMap front (parts path)).trans (congrArg _ spelled.dropWhile_parts)
  rw [List.cons_append] at split
  unfold relativeTo
  rw [joined path spelled.isAbsolute, List.cons_append]
  -- the first part of the base decides how the two texts start
  by_cases root : first = []
  · subst root
    have more : front ++ blanks ≠ [] := by
      intro alone
      rw [parts, alone] at split
      have whole := intercalate_partsOf base.toList
      rw [split] at whole
      exact written whole.symm
    rw [steps_of_root more split, later]
    dsimp only
    rw [seen]
    exact spelled.ofList_settle
  rw [steps_of_parts root split, later]
  by_cases here : first = ['.']
  · subst here
    simp only [↓reduceIte, Option.toList, List.cons_append, List.nil_append, seen]
    exact spelled.ofList_settle
  · rw [if_neg here]
    obtain ⟨s, stands, named⟩ : ∃ s, Step.ofPart? first = some s ∧ (s = .up ∨ ∃ n, s = .name n) := by
      unfold Step.ofPart?
      rw [if_neg (by simp [root, here])]
      split
      · exact ⟨_, rfl, Or.inl rfl⟩
      · exact ⟨_, rfl, Or.inr ⟨_, rfl⟩⟩
    have onward : behind (s :: front.filterMap Step.ofPart?) (first :: (front ++ parts path)) = some (parts path) := by
      rw [behind, ← seen]
      simp [stands]
    rw [stands]
    obtain rfl | ⟨n, rfl⟩ := named
    all_goals simpa [root, here, onward] using spelled.ofList_settle

end PolicyLint.Path
