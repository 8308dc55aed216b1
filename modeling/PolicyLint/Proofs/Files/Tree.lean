import PolicyLint.Proofs.Path.Relative
import PolicyLint.Proofs.Discovery.Walk

/-!
# Entries of a directory

In a tree whose names are those a file system can hold, a path that leads to a directory leads on to what stands in it:
`resolve_entry` finds it by its name behind the path. Only the length of the longer path can stop it.
-/

namespace PolicyLint

namespace FileTree

variable {entries : List (String × FileTree)} {name : String} {next tree : FileTree}

/-- A name that an entry of a directory can have. -/
def ProperName (name : String) : Prop :=
  name ∉ ["", ".", ".."] ∧ '/' ∉ name.toList ∧ Char.ofNat 0 ∉ name.toList ∧ name.utf8ByteSize ≤ FileSystem.longestName

instance (name : String) : Decidable (ProperName name) := inferInstanceAs (Decidable (_ ∧ _))

/-- The entries of each directory have proper names, and no two of them have the same one. -/
def Proper (tree : FileTree) : Prop :=
  ∀ names entries, tree.Below names (.directory entries) →
    (entries.map (·.1)).Nodup ∧ ∀ name ∈ entries.map (·.1), ProperName name

theorem file_ne_link (content : ByteArray) (target : String) : file content ≠ link target := by
  intro same
  cases same

theorem directory_ne_link (entries : List (String × FileTree)) (target : String) : directory entries ≠ link target := by
  intro same
  cases same

theorem proper_file (content : ByteArray) : (file content).Proper := by
  intro names entries below
  cases below

theorem proper_link (target : String) : (link target).Proper := by
  intro names entries below
  cases below

theorem proper_directory : (directory entries).Proper ↔
    (entries.map (·.1)).Nodup ∧ ∀ entry ∈ entries, ProperName entry.1 ∧ entry.2.Proper := by
  constructor
  · intro proper
    obtain ⟨nodup, named⟩ := proper [] entries (.here _)
    refine ⟨nodup, fun entry member => ⟨named _ (List.mem_map_of_mem member), fun names others below => ?_⟩⟩
    exact proper (entry.1 :: names) others (.entry member below)
  · rintro ⟨nodup, proper⟩ names others below
    cases below with
    | here =>
      refine ⟨nodup, fun name member => ?_⟩
      obtain ⟨entry, there, rfl⟩ := List.mem_map.mp member
      exact (proper entry there).1
    | entry member below => exact (proper _ member).2 _ _ below

theorem lookup_of_mem (nodup : (entries.map (·.1)).Nodup) (member : (name, next) ∈ entries) :
    entries.lookup name = some next := by
  obtain ⟨front, back, rfl⟩ := List.append_of_mem member
  refine List.lookup_eq_some_iff.mpr ⟨front, back, rfl, fun entry earlier => bne_iff_ne.mpr ?_⟩
  rintro rfl
  rw [List.map_append, List.nodup_append] at nodup
  exact nodup.2.2 _ (List.mem_map_of_mem earlier) _ List.mem_cons_self rfl

theorem proper_child? (proper : tree.Proper) (found : tree.child? name = some next) : next.Proper := by
  cases tree with
  | file content => cases found
  | link target => cases found
  | directory entries =>
    obtain ⟨front, back, split, _⟩ := List.lookup_eq_some_iff.mp found
    exact ((proper_directory.mp proper).2 (name, next) (by simp [split])).2

theorem ProperName.toList_ne (proper : ProperName name) :
    name.toList ≠ [] ∧ name.toList ≠ ['.'] ∧ name.toList ≠ ['.', '.'] := by
  have other : name.toList ≠ "".toList ∧ name.toList ≠ ".".toList ∧ name.toList ≠ "..".toList := by
    simpa only [ne_eq, String.toList_inj, List.mem_cons, List.not_mem_nil, or_false, not_or] using proper.1
  exact other

theorem ProperName.named (proper : ProperName name) : Step.ofPart? name.toList = some (.name name) := by
  obtain ⟨full, dot, up⟩ := proper.toList_ne
  rw [Step.ofPart?, if_neg (not_or.mpr ⟨full, dot⟩), if_neg up, String.ofList_toList]

theorem ProperName.spelled (proper : ProperName name) : Path.Spelled name [name] := .of_name proper.named proper.2.1

end FileTree

namespace FileSystem

variable {fs : FileSystem} {links : Nat} {trail last : Trail} {parts : List (List Char)}

/-! ### Proper trees on the way -/

theorem proper_tree (root : fs.root.Proper) (proper : ∀ e ∈ trail, e.2.Proper) : (trail.tree fs).Proper := by
  cases trail with
  | nil => exact root
  | cons e trail => exact proper e List.mem_cons_self

theorem proper_ofNames (root : fs.root.Proper) (names : List String) : ∀ e ∈ Trail.ofNames fs names, e.2.Proper := by
  refine List.foldlRecOn names _ (motive := fun trail : Trail => ∀ e ∈ trail, e.2.Proper) (List.forall_mem_nil _) ?_
  intro trail proper name _
  refine List.forall_mem_cons.mpr ⟨?_, proper⟩
  cases found : (trail.tree fs).child? name with
  | none => exact FileTree.proper_directory.mpr ⟨List.nodup_nil, List.forall_mem_nil _⟩
  | some next => exact FileTree.proper_child? (proper_tree root proper) found

theorem proper_follow {lastToo : Bool} (root : fs.root.Proper) (proper : ∀ e ∈ trail, e.2.Proper)
    (followed : fs.follow lastToo links trail parts = .ok last) : ∀ e ∈ last, e.2.Proper := by
  fun_induction follow fs lastToo links trail parts with
  | case1 =>
    cases followed
    exact proper
  | case2 | case5 | case6 | case8 => cases followed
  | case3 _ _ _ _ _ _ _ ih => exact ih proper followed
  | case4 _ _ _ _ _ _ ih => exact ih (fun e member => proper e (List.mem_of_mem_tail member)) followed
  | case7 =>
    cases followed
    exact List.forall_mem_cons.mpr ⟨FileTree.proper_link _, proper⟩
  | case9 _ _ _ _ _ _ _ _ _ target _ _ _ ih =>
    refine ih ?_ followed
    split
    · exact List.forall_mem_nil _
    · exact proper
  | case10 _ _ _ _ _ _ _ _ _ _ next _ there ih =>
    refine ih (List.forall_mem_cons.mpr ⟨?_, proper⟩) followed
    exact FileTree.proper_child? (proper_tree root proper) there

theorem resolve_ok {path : String} {lastToo : Bool} {tree : FileTree} : fs.resolve path lastToo = .ok tree ↔
    checkPath path = .ok () ∧
      ∃ last, fs.follow lastToo maxLinks (fs.start path) (Path.parts path) = .ok last ∧ last.tree fs = tree := by
  unfold resolve locate
  cases checked : checkPath path with
  | error fault => simp [bind, Except.bind, Except.map]
  | ok _ =>
    cases followed : fs.follow lastToo maxLinks (fs.start path) (Path.parts path) with
    | error fault | ok last => simp [bind, Except.bind, Except.map]

theorem proper_resolve {path : String} {lastToo : Bool} {tree : FileTree} (root : fs.root.Proper)
    (resolved : fs.resolve path lastToo = .ok tree) : tree.Proper := by
  obtain ⟨_, last, followed, rfl⟩ := resolve_ok.mp resolved
  refine proper_tree root (proper_follow root ?_ followed)
  unfold start
  split
  · exact List.forall_mem_nil _
  · exact proper_ofNames root fs.cwd

/-! ### Behind a directory -/

section

variable {lastToo : Bool} {part : List Char} {next : FileTree} {target : String}
  (directory : ¬(!(trail.tree fs).isDirectory) = true) (named : ¬(part = [] ∨ part = ['.'])) (up : ¬part = ['.', '.'])
  (short : ¬longestName < (String.ofList part).utf8ByteSize)

include directory named up short

theorem follow_absent (absent : (trail.tree fs).child? (String.ofList part) = none) :
    fs.follow lastToo links trail (part :: parts) = .error .notFound := by
  rw [follow, if_neg directory, if_neg named, if_neg up, if_neg short, absent]

theorem follow_next (there : (trail.tree fs).child? (String.ofList part) = some next)
    (other : ∀ target, next ≠ .link target) :
    fs.follow lastToo links trail (part :: parts) =
      fs.follow lastToo links ((String.ofList part, next) :: trail) parts := by
  rw [follow, if_neg directory, if_neg named, if_neg up, if_neg short, there]
  cases next with
  | link target => exact absurd rfl (other target)
  | file content => rfl
  | directory entries => rfl

theorem follow_link (there : (trail.tree fs).child? (String.ofList part) = some (.link target)) :
    fs.follow true 0 trail (part :: parts) = .error .tooManyLinks ∧
      ∀ left, fs.follow true (left + 1) trail (part :: parts) =
        fs.follow true left (if Path.isAbsolute target then [] else trail) (Path.parts target ++ parts) := by
  constructor
  · rw [follow, if_neg directory, if_neg named, if_neg up, if_neg short, there]
    simp
  · intro left
    rw [follow, if_neg directory, if_neg named, if_neg up, if_neg short, there]
    simp

end

/-- A list of parts leads nowhere, whatever stands behind it, or to a place from which what stands behind it is followed. -/
theorem follow_append (fs : FileSystem) (links : Nat) (trail : Trail) (parts : List (List Char)) :
    (∃ fault, ∀ rest, fs.follow true links trail (parts ++ rest) = .error fault) ∨
      ∃ left mid, ∀ rest, fs.follow true links trail (parts ++ rest) = fs.follow true left mid rest := by
  fun_induction follow fs true links trail parts with
  | case1 links trail => exact Or.inr ⟨links, trail, fun rest => rfl⟩
  | case2 links trail part parts tree other =>
    refine Or.inl ⟨.notDirectory, fun rest => ?_⟩
    rw [List.cons_append, follow, if_pos other]
  | case3 links trail part parts tree directory blank ih =>
    have onward : ∀ rest, fs.follow true links trail (part :: parts ++ rest) = fs.follow true links trail (parts ++ rest) := by
      intro rest
      rw [List.cons_append, follow, if_neg directory, if_pos blank]
    simpa only [onward] using ih
  | case4 links trail parts tree directory named ih =>
    have onward : ∀ rest, fs.follow true links trail (['.', '.'] :: parts ++ rest) =
        fs.follow true links trail.tail (parts ++ rest) := by
      intro rest
      rw [List.cons_append, follow, if_neg directory, if_neg named, if_pos rfl]
    simpa only [onward] using ih
  | case5 links trail part parts tree directory named up name long =>
    refine Or.inl ⟨.nameTooLong, fun rest => ?_⟩
    rw [List.cons_append, follow, if_neg directory, if_neg named, if_neg up, if_pos long]
  | case6 links trail part parts tree directory named up name short absent =>
    exact Or.inl ⟨.notFound, fun rest => follow_absent directory named up short absent⟩
  | case7 links trail part parts tree directory named up name short target there here => simp at here
  | case8 trail part parts tree directory named up name short target there onward =>
    exact Or.inl ⟨.tooManyLinks, fun rest => (follow_link directory named up short there).1⟩
  | case9 trail part parts tree directory named up name short target there last left ih =>
    have onward : ∀ rest, fs.follow true (left + 1) trail (part :: parts ++ rest) =
        fs.follow true left (if Path.isAbsolute target then [] else trail) (Path.parts target ++ parts ++ rest) := by
      intro rest
      rw [List.append_assoc]
      exact (follow_link directory named up short there).2 left
    simpa only [onward, dite_eq_ite] using ih
  | case10 links trail part parts tree directory named up name short next other there ih =>
    have onward : ∀ rest, fs.follow true links trail (part :: parts ++ rest) =
        fs.follow true links ((name, next) :: trail) (parts ++ rest) :=
      fun rest => follow_next directory named up short there other
    simpa only [onward] using ih

/-- Parts that do not count leave a path where it is. -/
theorem follow_skipped {blanks : List (List Char)} (skipped : blanks.filterMap Step.ofPart? = [])
    (followed : fs.follow true links trail blanks = .ok last) : last = trail := by
  induction blanks with
  | nil =>
    rw [follow] at followed
    exact (Except.ok.inj followed).symm
  | cons part blanks ih =>
    obtain ⟨none, skipped⟩ : Step.ofPart? part = none ∧ blanks.filterMap Step.ofPart? = [] := by
      rw [List.filterMap_eq_nil_iff, List.forall_mem_cons] at skipped
      exact ⟨skipped.1, List.filterMap_eq_nil_iff.mpr skipped.2⟩
    have blank : part = [] ∨ part = ['.'] := by
      unfold Step.ofPart? at none
      split_ifs at none with blank
      exact blank
    rw [follow] at followed
    split_ifs at followed
    exact ih skipped followed

theorem follow_entry {entries : List (String × FileTree)} {name : String} {next : FileTree}
    (directory : trail.tree fs = .directory entries) (proper : FileTree.ProperName name)
    (found : entries.lookup name = some next) (other : ∀ target, next ≠ .link target) :
    fs.follow true links trail [name.toList] = .ok ((name, next) :: trail) := by
  obtain ⟨full, dot, up⟩ := proper.toList_ne
  rw [follow_next (by simp [directory, FileTree.isDirectory]) (not_or.mpr ⟨full, dot⟩) up
    (by simpa using proper.2.2.2) (by simpa [directory, FileTree.child?] using found) other]
  rw [follow, String.ofList_toList]

theorem checkPath_ok {path : String} (checked : checkPath path = .ok ()) :
    Char.ofNat 0 ∉ path.toList ∧ path.utf8ByteSize ≤ longestPath ∧ path.toList ≠ [] := by
  unfold checkPath at checked
  split_ifs at checked with zero long empty
  rw [String.isEmpty_iff] at empty
  exact ⟨by simpa using zero, Nat.not_lt.mp long, String.toList_eq_nil_iff.not.mpr empty⟩

section

variable {dir name : String} {entries : List (String × FileTree)} {next : FileTree}

theorem checkPath_join (checked : checkPath dir = .ok ()) (proper : FileTree.ProperName name) :
    checkPath (Path.join dir name) =
      if longestPath < (Path.join dir name).utf8ByteSize then .error .nameTooLong else .ok () := by
  obtain ⟨zero, _, written⟩ := checkPath_ok checked
  obtain ⟨between, slashes, chars⟩ := Path.toList_join written proper.spelled.isAbsolute
  have clean : Char.ofNat 0 ∉ (Path.join dir name).toList := by
    rw [chars, List.mem_append, List.mem_append, not_or, not_or]
    refine ⟨zero, ?_, proper.2.2.1⟩
    rcases slashes with rfl | rfl <;> decide
  have more : (Path.join dir name).isEmpty = false := by
    rw [← Bool.not_eq_true, String.isEmpty_iff, ← String.toList_eq_nil_iff, chars]
    exact List.append_ne_nil_of_left_ne_nil written _
  simp [checkPath, clean, more]

theorem start_join (fs : FileSystem) (written : dir.toList ≠ []) (proper : FileTree.ProperName name) :
    fs.start (Path.join dir name) = fs.start dir := by
  obtain ⟨between, _, chars⟩ := Path.toList_join written proper.spelled.isAbsolute
  rw [start, start, Path.isAbsolute, Path.isAbsolute, chars, List.head?_append_of_ne_nil _ written]

theorem follow_join (directory : trail.tree fs = .directory entries) (written : dir.toList ≠ [])
    (proper : FileTree.ProperName name) (found : entries.lookup name = some next) (other : ∀ target, next ≠ .link target)
    (followed : fs.follow true maxLinks (fs.start dir) (Path.parts dir) = .ok trail) :
    fs.follow true maxLinks (fs.start dir) (Path.parts (Path.join dir name)) = .ok ((name, next) :: trail) := by
  obtain ⟨front, blanks, split, _, skipped, joined⟩ := Path.parts_join written
  rw [joined name proper.spelled.isAbsolute, proper.spelled.parts]
  rw [split] at followed
  rcases follow_append fs maxLinks (fs.start dir) front with ⟨fault, fails⟩ | ⟨left, mid, onward⟩
  · rw [fails] at followed
    cases followed
  · rw [onward] at followed ⊢
    obtain rfl := follow_skipped skipped followed
    exact follow_entry directory proper found other

/-- What stands in a directory is found by its name behind the directory's path, unless the path gets too long. -/
theorem resolve_entry (root : fs.root.Proper) (resolved : fs.resolve dir = .ok (.directory entries))
    (member : (name, next) ∈ entries) (other : ∀ target, next ≠ .link target) :
    fs.resolve (Path.join dir name) =
      if longestPath < (Path.join dir name).utf8ByteSize then .error .nameTooLong else .ok next := by
  obtain ⟨nodup, named⟩ := FileTree.proper_directory.mp (proper_resolve root resolved)
  have proper := (named _ member).1
  obtain ⟨checked, last, followed, directory⟩ := resolve_ok.mp resolved
  have written := (checkPath_ok checked).2.2
  have checked' := checkPath_join checked proper
  by_cases long : longestPath < (Path.join dir name).utf8ByteSize
  · rw [if_pos long] at checked' ⊢
    rw [resolve, locate, checked']
    rfl
  · rw [if_neg long] at checked' ⊢
    refine resolve_ok.mpr ⟨checked', (name, next) :: last, ?_, rfl⟩
    rw [start_join fs written proper]
    exact follow_join directory written proper (FileTree.lookup_of_mem nodup member) other followed

theorem readBytes_entry {content : ByteArray} (root : fs.root.Proper)
    (resolved : fs.resolve dir = .ok (.directory entries)) (member : (name, .file content) ∈ entries) :
    fs.readBytes (Path.join dir name) =
      if longestPath < (Path.join dir name).utf8ByteSize then .error .nameTooLong else .ok content := by
  rw [readBytes, resolve_entry root resolved member (FileTree.file_ne_link content)]
  split <;> rfl

end

end FileSystem

end PolicyLint
