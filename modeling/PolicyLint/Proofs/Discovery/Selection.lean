import PolicyLint.Proofs.Discovery.Walk
import PolicyLint.Proofs.Files.Tree
import PolicyLint.Proofs.Glob.Set

/-!
# Which paths are discovered

A path is discovered if a pattern names it, or if a walk below the base reaches it and a pattern that names no file
takes it, and in either case only if the filter keeps it. `discover_selected` says that these are all paths that are
discovered, each of them once and in order, so neither the order of the patterns nor their repetition counts.
-/

namespace PolicyLint

namespace Discovery

/-- The pattern names a regular file, not a link to one. -/
def Names (fs : FileSystem) (base pattern : String) : Prop := fs.isPlainFile (Path.join base pattern) = true

/-- A path that patterns stand for, seen from a base with this directory. -/
structure Selected (fs : FileSystem) (filter : Filter) (patterns : List String) (base : String) (top : FileTree)
    (path : String) : Prop where
  kept : filter.ignores path = false
  found : (∃ pattern ∈ patterns, Names fs base pattern ∧ path = Path.relativeTo (Path.join base pattern) base) ∨
    (∃ pattern ∈ patterns, ¬Names fs base pattern ∧ Glob.Takes pattern path) ∧
      ∃ names, Walked base top names ∧ path = "/".intercalate names

variable {fs : FileSystem} {filter : Filter} {base : String} {patterns : List String}

theorem Selected.mono {patterns' : List String} {top : FileTree} {path : String}
    (selected : Selected fs filter patterns base top path) (among : ∀ pattern ∈ patterns, pattern ∈ patterns') :
    Selected fs filter patterns' base top path := by
  refine ⟨selected.kept, ?_⟩
  rcases selected.found with ⟨pattern, member, name⟩ | ⟨⟨pattern, member, taken⟩, walked⟩
  · exact Or.inl ⟨pattern, among pattern member, name⟩
  · exact Or.inr ⟨⟨pattern, among pattern member, taken⟩, walked⟩

/-! ### Reading patterns -/

theorem readPatterns_of_valid (fs : FileSystem) (filter : Filter) (base : String)
    (valid : ∀ pattern ∈ patterns, Names fs base pattern ∨ Glob.Valid pattern) :
    ∃ named globs, readPatterns fs filter base patterns = .ok (named, globs) ∧ (∀ g ∈ globs, g.Usable) ∧
      (∀ path, path ∈ named ↔ filter.ignores path = false ∧
        ∃ pattern ∈ patterns, Names fs base pattern ∧ path = Path.relativeTo (Path.join base pattern) base) ∧
      ∀ g, g ∈ globs ↔ ∃ pattern ∈ patterns, ¬Names fs base pattern ∧ Glob.ofText pattern = .ok g := by
  induction patterns with
  | nil => exact ⟨[], [], rfl, by simp, by simp, by simp⟩
  | cons pattern patterns ih =>
    rw [List.forall_mem_cons] at valid
    obtain ⟨named, globs, reads, usable, names, takes⟩ := ih valid.2
    by_cases plain : Names fs base pattern
    · refine ⟨if filter.ignores (Path.relativeTo (Path.join base pattern) base) then named
        else Path.relativeTo (Path.join base pattern) base :: named, globs, ?_, usable, fun path => ?_, fun g => ?_⟩
      · rw [readPatterns, if_pos (show fs.isPlainFile _ = true from plain), reads]
        rfl
      · rw [List.exists_mem_cons_iff]
        split
        · rename_i ignored
          rw [names]
          refine and_congr_right fun kept => (or_iff_right ?_).symm
          rintro ⟨_, rfl⟩
          exact Bool.false_ne_true (kept.symm.trans ignored)
        · rename_i kept
          rw [List.mem_cons, names]
          constructor
          · rintro (rfl | ⟨kept, some⟩)
            · exact ⟨Bool.eq_false_iff.mpr kept, Or.inl ⟨plain, rfl⟩⟩
            · exact ⟨kept, Or.inr some⟩
          · rintro ⟨kept, ⟨_, same⟩ | some⟩
            · exact Or.inl same
            · exact Or.inr ⟨kept, some⟩
      · rw [takes, List.exists_mem_cons_iff]
        exact (or_iff_right fun other => other.1 plain).symm
    · obtain ⟨first, read, fits⟩ := valid.1.resolve_left plain
      refine ⟨named, first :: globs, ?_, List.forall_mem_cons.mpr ⟨fits, usable⟩, fun path => ?_, fun g => ?_⟩
      · rw [readPatterns, if_neg (show ¬fs.isPlainFile _ = true from plain), read, reads]
        rfl
      · rw [names, List.exists_mem_cons_iff]
        exact and_congr_right fun _ => (or_iff_right fun other => plain other.1).symm
      · rw [List.mem_cons, takes, List.exists_mem_cons_iff, read, Except.ok.injEq]
        exact or_congr_left ⟨fun same => ⟨plain, same.symm⟩, fun other => other.2.symm⟩

/-! ### Repeated paths -/

theorem exists_kept_go {last path : String} {rest : List String} (member : path ∈ last :: rest) :
    ∃ kept ∈ last :: dropRepeated.go last rest, Path.steps kept = Path.steps path := by
  induction rest generalizing last with
  | nil => exact ⟨path, member, rfl⟩
  | cons next rest ih =>
    rw [dropRepeated.go]
    rcases List.mem_cons.mp member with rfl | later
    · exact ⟨path, List.mem_cons_self, rfl⟩
    · split
      · rename_i same
        rcases List.mem_cons.mp later with rfl | later
        · exact ⟨last, List.mem_cons_self, same.symm⟩
        · exact ih (List.mem_cons_of_mem _ later)
      · obtain ⟨kept, there, same⟩ := ih later
        exact ⟨kept, List.mem_cons_of_mem _ there, same⟩

theorem exists_kept {path : String} {paths : List String} (member : path ∈ paths) :
    ∃ kept ∈ dropRepeated paths, Path.steps kept = Path.steps path := by
  cases paths with
  | nil => cases member
  | cons first rest => exact exists_kept_go member

theorem mem_of_mem_dropRepeated {path : String} {paths : List String} (member : path ∈ dropRepeated paths) :
    path ∈ paths := by
  cases paths with
  | nil => cases member
  | cons first rest =>
    rcases List.mem_cons.mp member with rfl | later
    · exact List.mem_cons_self
    · exact List.mem_cons_of_mem _ (mem_of_mem_go later)

/-- Ascending paths are settled by their steps, whatever the order in which these are known. -/
theorem steps_eq_of_ascending {paths paths' : List String} (ascending : paths.Pairwise Before)
    (ascending' : paths'.Pairwise Before) (same : ∀ ss, ss ∈ paths.map Path.steps ↔ ss ∈ paths'.map Path.steps) :
    paths.map Path.steps = paths'.map Path.steps := by
  have distinct : ∀ {paths : List String}, paths.Pairwise Before → (paths.map Path.steps).Nodup :=
    fun ascending => List.pairwise_map.mpr (ascending.imp And.right)
  have sorted : ∀ {paths : List String}, paths.Pairwise Before →
      (paths.map Path.steps).Pairwise fun a b => stepsLe a b = true :=
    fun ascending => List.pairwise_map.mpr (ascending.imp And.left)
  have perm := (List.perm_ext_iff_of_nodup (distinct ascending) (distinct ascending')).mpr same
  exact perm.eq_of_pairwise (fun _ _ _ _ => stepsLe_antisymm) (sorted ascending) (sorted ascending')

/-! ### Selected paths -/

/-- The paths below the base that globs match and the filter keeps. -/
def matchedBelow (fs : FileSystem) (filter : Filter) (base : String) (globs : List Glob) : List String :=
  let set : Glob.Set := { members := globs }
  if set.isEmpty then [] else (filesBelow fs base).filter fun path => set.matches path && !filter.ignores path

theorem mem_matchedBelow {globs : List Glob} {path : String} :
    path ∈ matchedBelow fs filter base globs ↔
      path ∈ filesBelow fs base ∧ Glob.Set.matches { members := globs } path = true ∧ filter.ignores path = false := by
  unfold matchedBelow
  dsimp only
  split
  · -- without globs there is no walk, and nothing would match
    rename_i none
    have unmatched : ¬Glob.Set.matches { members := globs } path = true := by
      rw [Glob.Set.matches_iff, List.isEmpty_iff.mp none]
      rintro ⟨g, member, _⟩
      cases member
    exact iff_of_false List.not_mem_nil fun ⟨_, matches', _⟩ => unmatched matches'
  · rw [List.mem_filter, Bool.and_eq_true, Bool.not_eq_true']

theorem discover_of_usable {named : List String} {globs : List Glob}
    (reads : readPatterns fs filter base patterns = .ok (named, globs)) (usable : ∀ g ∈ globs, g.Usable) :
    discover fs filter patterns base =
      .ok (dropRepeated ((named ++ matchedBelow fs filter base globs).mergeSort Path.le)) := by
  rw [discover, reads]
  show (Glob.Set.ofList globs).mapError _ >>= _ = _
  rw [Glob.Set.ofList_of_usable usable]
  rfl

section Directory

variable {entries : List (String × FileTree)}

theorem discover_of_valid (directory : fs.resolve base = .ok (.directory entries)) (filter : Filter)
    (valid : ∀ pattern ∈ patterns, Names fs base pattern ∨ Glob.Valid pattern) :
    ∃ paths, discover fs filter patterns base = .ok paths ∧ paths.Pairwise Before ∧
      (∀ path ∈ paths, Selected fs filter patterns base (.directory entries) path) ∧
      ∀ path, Selected fs filter patterns base (.directory entries) path →
        ∃ kept ∈ paths, Path.steps kept = Path.steps path := by
  obtain ⟨named, globs, reads, usable, names, takes⟩ := readPatterns_of_valid fs filter base valid
  have selected : ∀ path, path ∈ named ++ matchedBelow fs filter base globs ↔
      Selected fs filter patterns base (.directory entries) path := by
    intro path
    have matched := Glob.Set.matches_iff_takes (P := fun pattern => pattern ∈ patterns ∧ ¬Names fs base pattern)
      (by simpa only [and_assoc] using takes) path
    simp only [and_assoc] at matched
    rw [List.mem_append, names, mem_matchedBelow, matched, mem_filesBelow directory]
    constructor
    · rintro (⟨kept, name⟩ | ⟨reached, taken, kept⟩)
      · exact ⟨kept, Or.inl name⟩
      · exact ⟨kept, Or.inr ⟨taken, reached⟩⟩
    · rintro ⟨kept, name | ⟨taken, reached⟩⟩
      · exact Or.inl ⟨kept, name⟩
      · exact Or.inr ⟨reached, taken, kept⟩
  refine ⟨_, discover_of_usable reads usable, ?_, fun path member => ?_, fun path chosen => ?_⟩
  · exact ascending_dropRepeated (sortedBy_mergeSort keyOrder_stepsLe Path.steps _)
  · exact (selected path).mp (List.mem_mergeSort.mp (mem_of_mem_dropRepeated member))
  · exact exists_kept (List.mem_mergeSort.mpr ((selected path).mpr chosen))

/-- With valid globs for the filter, and patterns of which each names a file or is a valid glob, discovery finds the
selected paths and no others, in strictly ascending order. Patterns with the same members find the same paths. -/
theorem discover_selected {included excluded : List String} (directory : fs.resolve base = .ok (.directory entries))
    (includes : ∀ text ∈ included, Glob.Valid text) (excludes : ∀ text ∈ excluded, Glob.Valid text)
    (valid : ∀ pattern ∈ patterns, Names fs base pattern ∨ Glob.Valid pattern) :
    ∃ filter paths, Filter.ofTexts included excluded = .ok filter ∧
      (∀ path, filter.ignores path = true ↔
        (∃ text ∈ excluded, Glob.Takes text path) ∨ included ≠ [] ∧ ¬∃ text ∈ included, Glob.Takes text path) ∧
      discover fs filter patterns base = .ok paths ∧ paths.Pairwise Before ∧
      (∀ path ∈ paths, Selected fs filter patterns base (.directory entries) path) ∧
      (∀ path, Selected fs filter patterns base (.directory entries) path →
        ∃ kept ∈ paths, Path.steps kept = Path.steps path) ∧
      ∀ patterns', (∀ pattern, pattern ∈ patterns' ↔ pattern ∈ patterns) →
        ∃ paths', discover fs filter patterns' base = .ok paths' ∧ paths'.map Path.steps = paths.map Path.steps := by
  obtain ⟨filter, read, ignores⟩ := Filter.ofTexts_of_valid includes excludes
  obtain ⟨paths, discovered, ascending, selected, complete⟩ := discover_of_valid directory filter valid
  refine ⟨filter, paths, read, ignores, discovered, ascending, selected, complete, fun patterns' same => ?_⟩
  obtain ⟨paths', discovered', ascending', selected', complete'⟩ :=
    discover_of_valid directory filter fun pattern member => valid pattern ((same pattern).mp member)
  refine ⟨paths', discovered', steps_eq_of_ascending ascending' ascending fun ss => ?_⟩
  rw [List.mem_map, List.mem_map]
  constructor
  · rintro ⟨path, member, rfl⟩
    exact complete path ((selected' path member).mono fun pattern => (same pattern).mp)
  · rintro ⟨path, member, rfl⟩
    exact complete' path ((selected path member).mono fun pattern => (same pattern).mpr)

end Directory

/-- A file that one pattern names and another one takes, beside a hidden one. -/
theorem discover_selected_of_both_ways :
    let fs : FileSystem := { root := .directory [("a.rs", .file "fn a".toUTF8), (".b.rs", .file "fn b".toUTF8)] }
    ∃ filter paths, Filter.ofTexts [] ["*.md"] = .ok filter ∧ discover fs filter ["a.rs", "*.rs"] "/" = .ok paths ∧
      paths.Pairwise Before ∧ ∃ kept ∈ paths, Path.steps kept = [.name "a.rs"] := by
  intro fs
  have directory : fs.resolve "/" = .ok fs.root := by
    have sound : FileSystem.checkPath "/" = .ok () := by decide +kernel
    have absolute : Path.isAbsolute "/" = true := by decide +kernel
    have split : Path.parts "/" = [[], []] := by decide +kernel
    rw [FileSystem.resolve, FileSystem.locate, sound, FileSystem.start, if_pos absolute, split]
    simp only [bind, Except.bind]
    rw [FileSystem.follow_blank _ rfl (Or.inl rfl), FileSystem.follow_blank _ rfl (Or.inl rfl), FileSystem.follow]
    rfl
  have named : Names fs "/" "a.rs" := by
    have plain : ∀ lastToo, fs.resolve "/a.rs" lastToo = .ok (.file "fn a".toUTF8) :=
      FileSystem.resolve_file [[]] ['a', '.', 'r', 's'] rfl (by decide +kernel) (by decide +kernel) (by decide +kernel)
        (by decide) (by decide) (by decide) rfl
    rw [Names, FileSystem.isPlainFile, show Path.join "/" "a.rs" = "/a.rs" by decide +kernel, plain]
  have sources : Glob.Valid "*.rs" := by
    let g : Glob := ⟨[.many, .literal '.', .literal 'r', .literal 's']⟩
    have shape : g.shape = .ending ".rs".toList := by decide
    exact .of_ending (g := g) rfl shape
  let g : Glob := ⟨[.many, .literal '.', .literal 'm', .literal 'd']⟩
  have read : Glob.ofText "*.md" = .ok g := rfl
  have shape : g.shape = .ending ".md".toList := by decide
  have notes : Glob.Valid "*.md" := .of_ending read shape
  obtain ⟨filter, paths, made, ignores, discovered, ascending, _, complete, _⟩ :=
    @discover_selected fs "/" ["a.rs", "*.rs"] _ [] ["*.md"] directory (by simp) (by simpa using notes)
      (by simpa using And.intro (Or.inl named) (Or.inr sources))
  have kept : filter.ignores "a.rs" = false := by
    rw [← Bool.not_eq_true, ignores]
    rintro (⟨text, member, g', read', accepts⟩ | ⟨some, _⟩)
    · rw [List.mem_singleton.mp member, read] at read'
      obtain rfl := Except.ok.inj read'
      rw [Glob.Accepts, shape] at accepts
      exact absurd accepts (by decide +kernel)
    · exact some rfl
  have seen : Path.relativeTo (Path.join "/" "a.rs") "/" = "a.rs" := by decide +kernel
  obtain ⟨path, member, same⟩ := complete "a.rs" ⟨kept, Or.inl ⟨"a.rs", by simp, named, seen.symm⟩⟩
  exact ⟨filter, paths, made, discovered, ascending, path, member, same.trans (by decide +kernel)⟩

/-! ### Paths that are too long -/

def slashes (n : Nat) : String := String.ofList (List.replicate n '/')

theorem utf8ByteSize_slashes (n : Nat) : (slashes n).utf8ByteSize = n := by
  induction n with
  | zero => rfl
  | succ n ih =>
    rw [slashes, List.replicate_succ', String.ofList_append, String.utf8ByteSize_append, ← slashes, ih]
    rfl

theorem parts_slashes (n : Nat) : Path.parts (slashes n) = List.replicate (n + 1) [] := by
  rw [Path.parts, slashes, String.toList_ofList]
  induction n with
  | zero => rfl
  | succ n ih => rw [List.replicate_succ, Path.partsOf, if_pos rfl, ih, ← List.replicate_succ]

theorem checkPath_slashes {n : Nat} (some : n ≠ 0) (short : n ≤ FileSystem.longestPath) :
    FileSystem.checkPath (slashes n) = .ok () := by
  have clean : Char.ofNat 0 ∉ (slashes n).toList := by
    rw [slashes, String.toList_ofList, List.mem_replicate]
    exact fun zero => absurd zero.2 (by decide)
  have written : (slashes n).isEmpty = false := by
    rw [← Bool.not_eq_true, String.isEmpty_iff, ← String.toList_eq_nil_iff, slashes, String.toList_ofList,
      List.replicate_eq_nil_iff]
    exact some
  simp [FileSystem.checkPath, clean, written, utf8ByteSize_slashes, Nat.not_lt.mpr short]

theorem resolve_slashes {fs : FileSystem} {n : Nat} (some : n ≠ 0) (short : n ≤ FileSystem.longestPath)
    (directory : fs.root.isDirectory = true) : fs.resolve (slashes n) = .ok fs.root := by
  have absolute : Path.isAbsolute (slashes n) = true := by
    obtain ⟨m, rfl⟩ := Nat.exists_eq_succ_of_ne_zero some
    rw [Path.isAbsolute, slashes, String.toList_ofList, List.replicate_succ]
    rfl
  have skipped : ∀ k, fs.follow true FileSystem.maxLinks [] (List.replicate k []) = .ok [] := by
    intro k
    induction k with
    | zero => rw [List.replicate_zero, FileSystem.follow]
    | succ k ih =>
      have root : (FileSystem.Trail.tree [] fs).isDirectory = true := directory
      rw [List.replicate_succ, FileSystem.follow_blank _ root (Or.inl rfl), ih]
  refine FileSystem.resolve_ok.mpr ⟨checkPath_slashes some short, [], ?_, rfl⟩
  rw [FileSystem.start, if_pos absolute, parts_slashes]
  exact skipped _

theorem join_slashes {n : Nat} (some : n ≠ 0) {path : String} (relative : Path.isAbsolute path = false) :
    Path.join (slashes n) path = slashes n ++ path := by
  refine Path.join_of_getLast? ?_ relative
  obtain ⟨m, rfl⟩ := Nat.exists_eq_succ_of_ne_zero some
  rw [slashes, String.toList_ofList, List.replicate_succ', List.getLast?_concat]

/-- The directory "d" below the longest path that can be opened cannot be opened, so the file in it is not found. -/
theorem not_discovered_beyond_longestPath :
    ¬∀ (fs : FileSystem) (entries : List (String × FileTree)) (included excluded patterns : List String) (base : String),
      fs.resolve base = .ok (.directory entries) → (∀ text ∈ included, Glob.Valid text) →
      (∀ text ∈ excluded, Glob.Valid text) → (∀ pattern ∈ patterns, Names fs base pattern ∨ Glob.Valid pattern) →
      ∃ filter paths, Filter.ofTexts included excluded = .ok filter ∧ discover fs filter patterns base = .ok paths ∧
        ∀ names content, (FileTree.directory entries).Below names (.file content) → FileTree.Visible names →
          filter.ignores ("/".intercalate names) = false →
          (∃ pattern ∈ patterns, ¬Names fs base pattern ∧ Glob.Takes pattern ("/".intercalate names)) →
          ∃ kept ∈ paths, Path.steps kept = Path.steps ("/".intercalate names) := by
  intro found
  let fs : FileSystem := { root := .directory [("d", .directory [("a.ts", .file "x".toUTF8)])] }
  let base := slashes FileSystem.longestPath
  have some : FileSystem.longestPath ≠ 0 := by decide
  have directory : fs.resolve base = .ok fs.root := resolve_slashes some (Nat.le_refl _) rfl
  have long : ∀ {path : String}, Path.isAbsolute path = false → path ≠ "" →
      FileSystem.checkPath (Path.join base path) ≠ .ok () := by
    intro path relative written checked
    have short := (FileSystem.checkPath_ok checked).2.1
    rw [join_slashes some relative, String.utf8ByteSize_append, utf8ByteSize_slashes] at short
    have empty : path.utf8ByteSize = 0 := by omega
    exact written (String.utf8ByteSize_eq_zero_iff.mp empty)
  let g : Glob := ⟨[.many, .literal '.', .literal 't', .literal 's']⟩
  have shape : g.shape = .ending ".ts".toList := by decide
  have sources : Glob.Valid "*.ts" := .of_ending (g := g) rfl shape
  have unnamed : ¬Names fs base "*.ts" := by
    intro plain
    rw [Names, FileSystem.isPlainFile] at plain
    split at plain
    · rename_i resolved
      exact long (by decide +kernel) (by decide +kernel) (FileSystem.resolve_ok.mp resolved).1
    · exact absurd plain Bool.false_ne_true
  have valid : ∀ pattern ∈ ["*.ts"], Names fs base pattern ∨ Glob.Valid pattern := by simpa using Or.inr sources
  obtain ⟨filter, paths, made, discovered, complete⟩ :=
    found fs _ [] [] ["*.ts"] base directory (by simp) (by simp) valid
  obtain ⟨filter', made', ignores⟩ := @Filter.ofTexts_of_valid [] [] (by simp) (by simp)
  obtain rfl : filter' = filter := Except.ok.inj (made'.symm.trans made)
  have kept : filter'.ignores "d/a.ts" = false := by
    rw [← Bool.not_eq_true, ignores]
    simp
  have visible : FileTree.Visible ["d", "a.ts"] := by
    rw [FileTree.Visible]
    decide +kernel
  have below : (FileTree.directory [("d", .directory [("a.ts", .file "x".toUTF8)])]).Below ["d", "a.ts"] (.file "x".toUTF8) :=
    .entry List.mem_cons_self (.entry List.mem_cons_self (.here _))
  have taken : Glob.Takes "*.ts" "d/a.ts" := by
    refine ⟨g, rfl, ?_⟩
    rw [Glob.Accepts, shape]
    decide +kernel
  obtain ⟨path, member, _⟩ := complete ["d", "a.ts"] _ below visible kept ⟨"*.ts", by simp, unnamed, taken⟩
  obtain ⟨paths', discovered', _, selected, _⟩ := discover_of_valid directory filter' valid
  obtain rfl : paths' = paths := Except.ok.inj (discovered'.symm.trans discovered)
  rcases (selected path member).found with ⟨pattern, among, named, _⟩ | ⟨_, names, ⟨⟨content, below⟩, _, opened⟩, _⟩
  · exact unnamed (List.mem_singleton.mp among ▸ named)
  · -- The walk would have to open the directory in which the one file of the tree stands.
    have split : names = ["d", "a.ts"] := by
      cases below with
      | entry first below =>
        obtain ⟨rfl, rfl⟩ := Prod.mk.inj (List.mem_singleton.mp first)
        cases below with
        | entry second below =>
          obtain ⟨rfl, rfl⟩ := Prod.mk.inj (List.mem_singleton.mp second)
          cases below
          rfl
    rw [split] at opened
    rcases opened with short | checked
    · exact absurd short (by decide)
    · exact long (by decide +kernel) (by decide +kernel) checked

end Discovery

end PolicyLint
