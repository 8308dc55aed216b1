import PolicyLint.Proofs.Discovery.Sources

/-!
# Walks below a directory

A walk opens the base directory and the directories below it, but none behind a link, and lists what stands in them.
`mem_filesBelow` says that it finds exactly the regular files that it reaches this way, by the names that lead to them.
-/

namespace PolicyLint

namespace FileTree

inductive Below : FileTree → List String → FileTree → Prop where
  | here (tree : FileTree) : Below tree [] tree
  | entry {entries : List (String × FileTree)} {name : String} {next : FileTree} {names : List String} {tree : FileTree} :
      (name, next) ∈ entries → Below next names tree → Below (.directory entries) (name :: names) tree

def Visible (names : List String) : Prop := ∀ name ∈ names, Path.isHiddenName name = false

theorem below_directory {entries : List (String × FileTree)} {name : String} {names : List String} {tree : FileTree} :
    (directory entries).Below (name :: names) tree ↔ ∃ next, (name, next) ∈ entries ∧ next.Below names tree := by
  constructor
  · intro below
    cases below with
    | entry member below => exact ⟨_, member, below⟩
  · rintro ⟨next, member, below⟩
    exact .entry member below

theorem visible_cons {name : String} {names : List String} :
    Visible (name :: names) ↔ Path.isHiddenName name = false ∧ Visible names := List.forall_mem_cons

theorem mem_visibleEntries {entries : List (String × FileTree)} {names : List String} :
    names ∈ visibleEntries entries ↔ ∃ name next rest, names = name :: rest ∧ (name, next) ∈ entries ∧
      Path.isHiddenName name = false ∧ rest ∈ next.visibleFiles := by
  induction entries with
  | nil => simp [visibleEntries]
  | cons entry entries ih =>
    obtain ⟨first, tree⟩ := entry
    rw [visibleEntries, List.mem_append, ih]
    constructor
    · rintro (here | ⟨name, next, rest, split, member, visible, below⟩)
      · split at here
        · exact absurd here List.not_mem_nil
        · rename_i visible
          obtain ⟨rest, below, rfl⟩ := List.mem_map.mp here
          exact ⟨first, tree, rest, rfl, List.mem_cons_self, Bool.eq_false_iff.mpr visible, below⟩
      · exact ⟨name, next, rest, split, List.mem_cons_of_mem _ member, visible, below⟩
    · rintro ⟨name, next, rest, rfl, member, visible, below⟩
      rcases List.mem_cons.mp member with same | later
      · obtain ⟨rfl, rfl⟩ := Prod.mk.inj same
        rw [if_neg (by rw [visible]; exact Bool.false_ne_true)]
        exact Or.inl (List.mem_map_of_mem below)
      · exact Or.inr ⟨name, next, rest, rfl, later, visible, below⟩

/-- The visible files are those that visible names lead down to. -/
theorem mem_visibleFiles {tree : FileTree} {names : List String} :
    names ∈ tree.visibleFiles ↔ (∃ content, tree.Below names (.file content)) ∧ Visible names := by
  induction names generalizing tree with
  | nil =>
    have visible : Visible [] := fun name member => absurd member List.not_mem_nil
    cases tree with
    | file content => exact iff_of_true (List.mem_singleton.mpr rfl) ⟨⟨content, .here _⟩, visible⟩
    | link target =>
      refine iff_of_false List.not_mem_nil ?_
      rintro ⟨⟨content, below⟩, _⟩
      cases below
    | directory entries =>
      rw [visibleFiles, mem_visibleEntries]
      refine iff_of_false ?_ ?_
      · rintro ⟨name, next, rest, split, _⟩
        cases split
      · rintro ⟨⟨content, below⟩, _⟩
        cases below
  | cons name names ih =>
    cases tree with
    | file content =>
      refine iff_of_false (fun member => nomatch List.mem_singleton.mp member) ?_
      rintro ⟨⟨content, below⟩, _⟩
      cases below
    | link target =>
      refine iff_of_false List.not_mem_nil ?_
      rintro ⟨⟨content, below⟩, _⟩
      cases below
    | directory entries =>
      rw [visibleFiles, mem_visibleEntries, visible_cons]
      constructor
      · rintro ⟨_, next, _, split, member, shown, below⟩
        obtain ⟨rfl, rfl⟩ := List.cons.inj split
        obtain ⟨⟨content, below⟩, visible⟩ := ih.mp below
        exact ⟨⟨content, .entry member below⟩, shown, visible⟩
      · rintro ⟨⟨content, below⟩, shown, visible⟩
        obtain ⟨next, member, below⟩ := below_directory.mp below
        exact ⟨name, next, names, rfl, member, shown, ih.mpr ⟨⟨content, below⟩, visible⟩⟩

end FileTree

/-! ### Base directories -/

namespace FileSystem

variable {fs : FileSystem}

/-- A path that leads somewhere leads somewhere also when a link at its end is not followed. -/
theorem follow_unlinked {lastToo : Bool} {links : Nat} {trail last : Trail} {parts : List (List Char)}
    (followed : fs.follow lastToo links trail parts = .ok last) :
    ∃ stop, fs.follow false links trail parts = .ok stop := by
  fun_induction follow fs lastToo links trail parts with
  | case1 links trail => exact ⟨trail, by rw [follow]⟩
  | case2 | case5 | case6 | case8 => cases followed
  | case3 links trail part parts tree directory blank ih =>
    obtain ⟨stop, goes⟩ := ih followed
    refine ⟨stop, ?_⟩
    rw [follow, if_neg directory, if_pos blank, goes]
  | case4 links trail parts tree directory named ih =>
    obtain ⟨stop, goes⟩ := ih followed
    refine ⟨stop, ?_⟩
    rw [follow, if_neg directory, if_neg named, if_pos rfl, goes]
  | case7 links trail part parts tree directory named up name short target there here =>
    refine ⟨(name, .link target) :: trail, ?_⟩
    rw [follow, if_neg directory, if_neg named, if_neg up, if_neg short]
    rw [show (trail.tree fs).child? (String.ofList part) = some (.link target) from there]
    dsimp only
    rw [if_pos (by rw [(Bool.and_eq_true_iff.mp here).1]; rfl)]
  | case9 trail part parts tree directory named up name short target there onward left ih =>
    obtain ⟨stop, goes⟩ := ih followed
    rw [follow, if_neg directory, if_neg named, if_neg up, if_neg short]
    rw [show (trail.tree fs).child? (String.ofList part) = some (.link target) from there]
    dsimp only
    split
    · exact ⟨_, rfl⟩
    · exact ⟨stop, goes⟩
  | case10 links trail part parts tree directory named up name short next other there ih =>
    obtain ⟨stop, goes⟩ := ih followed
    refine ⟨stop, ?_⟩
    rw [follow, if_neg directory, if_neg named, if_neg up, if_neg short]
    rw [show (trail.tree fs).child? (String.ofList part) = some next from there]
    cases next with
    | link target => exact absurd rfl (other target)
    | file content => exact goes
    | directory entries => exact goes

theorem resolve_unlinked {path : String} {tree : FileTree} (resolved : fs.resolve path = .ok tree) :
    ∃ plain, fs.resolve path false = .ok plain := by
  unfold resolve locate at resolved ⊢
  cases checked : checkPath path with
  | error fault =>
    rw [checked] at resolved
    cases resolved
  | ok _ =>
    rw [checked] at resolved
    cases followed : fs.follow true maxLinks (fs.start path) (Path.parts path) with
    | error fault =>
      simp only [bind, Except.bind, followed, Except.map] at resolved
      cases resolved
    | ok trail =>
      obtain ⟨stop, goes⟩ := follow_unlinked followed
      exact ⟨stop.tree fs, by simp only [bind, Except.bind, goes, Except.map]⟩

end FileSystem

namespace Discovery

/-- A walk below a directory opens the directory in which the names end. The directories above it have shorter paths, so
they are opened with it. -/
def Opened (base : String) (names : List String) : Prop :=
  names.length ≤ 1 ∨ FileSystem.checkPath (Path.join base ("/".intercalate names.dropLast)) = .ok ()

/-- A walk below a directory reaches a regular file by names of which none is hidden. -/
structure Walked (base : String) (top : FileTree) (names : List String) : Prop where
  file : ∃ content, top.Below names (.file content)
  visible : FileTree.Visible names
  opened : Opened base names

theorem mem_filesBelow {fs : FileSystem} {base path : String} {entries : List (String × FileTree)}
    (directory : fs.resolve base = .ok (.directory entries)) :
    path ∈ filesBelow fs base ↔ ∃ names, Walked base (.directory entries) names ∧ path = "/".intercalate names := by
  have opens : ∀ names : List String,
      (names.length ≤ 1 || (FileSystem.checkPath (Path.join base ("/".intercalate names.dropLast))).isOk) = true ↔
        Opened base names := by
    intro names
    rw [Bool.or_eq_true, decide_eq_true_eq]
    refine or_congr Iff.rfl ?_
    cases FileSystem.checkPath (Path.join base ("/".intercalate names.dropLast)) with
    | error fault => exact iff_of_false Bool.false_ne_true nofun
    | ok _ => exact iff_of_true rfl rfl
  have found : filesBelow fs base = ((FileTree.directory entries).visibleFiles.filter fun names =>
      names.length ≤ 1 || (FileSystem.checkPath (Path.join base ("/".intercalate names.dropLast))).isOk).map
        (String.intercalate "/") := by
    obtain ⟨plain, unlinked⟩ := FileSystem.resolve_unlinked directory
    rw [filesBelow, unlinked, directory]
    cases plain <;> rfl
  rw [found, List.mem_map]
  constructor
  · rintro ⟨names, member, rfl⟩
    obtain ⟨below, open'⟩ := List.mem_filter.mp member
    obtain ⟨file, visible⟩ := FileTree.mem_visibleFiles.mp below
    exact ⟨names, ⟨file, visible, (opens names).mp open'⟩, rfl⟩
  · rintro ⟨names, ⟨file, visible, opened⟩, rfl⟩
    exact ⟨names, List.mem_filter.mpr ⟨FileTree.mem_visibleFiles.mpr ⟨file, visible⟩, (opens names).mpr opened⟩, rfl⟩

end Discovery

end PolicyLint
