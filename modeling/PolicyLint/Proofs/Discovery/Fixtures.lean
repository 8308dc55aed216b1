import PolicyLint.Discovery.Fixtures
import PolicyLint.Proofs.Files.Tree
import PolicyLint.Proofs.Rule.Name

/-!
# Fixtures of different rules

A fixture stands directly in the directory of its label, and this one stands directly in the directory of its rule. So
the last two names of a fixture's path are the label and the file, and the names before them are the rule's: the
directories of two rules may lie inside each other, but `read_apart` says that no path is a fixture of both.
-/

namespace PolicyLint

namespace Discovery

variable {fs : FileSystem} {base : String} {paths : List String} {files : List SourceFile} {notices : List Notice}

theorem readBytes_of_unreadable {path : String} {fault : FileFault} (other : fault ≠ .invalidText)
    (unreadable : fs.readText path = .error fault) : fs.readBytes path = .error fault := by
  unfold FileSystem.readText at unreadable
  cases read : fs.readBytes path with
  | error fault' =>
    rw [read] at unreadable
    cases unreadable
    rfl
  | ok bytes =>
    rw [read] at unreadable
    simp only [bind, Except.bind] at unreadable
    split at unreadable
    · cases unreadable
    · cases unreadable
      exact absurd rfl other

/-- Reading fails only on a file of which the bytes cannot be had. -/
theorem readSources_cases (fs : FileSystem) (base : String) (paths : List String) :
    (∃ files notices, readSources fs base paths = .ok (files, notices)) ∨
      ∃ path ∈ paths, ∃ fault, fs.readBytes (Path.join base path) = .error fault ∧
        readSources fs base paths = .error (.unreadable path fault) := by
  induction paths with
  | nil => exact Or.inl ⟨[], [], rfl⟩
  | cons path rest ih =>
    rcases fs.readText_cases (Path.join base path) with ⟨text, read, _⟩ | ⟨bytes, read, _⟩ | ⟨fault, other, read⟩ <;>
      rw [readSources_cons read]
    case inr.inr =>
      refine Or.inr ⟨path, List.mem_cons_self, fault, readBytes_of_unreadable other read, ?_⟩
      cases fault with
      | invalidText => exact absurd rfl other
      | _ => rfl
    all_goals
      rcases ih with ⟨files, notices, ok⟩ | ⟨later, member, fault, bytes, failed⟩
      · exact Or.inl ⟨_, _, by rw [ok]; rfl⟩
      · exact Or.inr ⟨later, List.mem_cons_of_mem _ member, fault, bytes, by rw [failed]; rfl⟩

/-- The files that are read are the texts among those that the paths lead to. -/
theorem ReadAs.mem_iff (read : ReadAs fs base paths files notices) {file : SourceFile} : file ∈ files ↔
    ∃ path ∈ paths, file.path = Path.display path ∧ fs.readBytes (Path.join base path) = .ok file.content.toUTF8 := by
  induction read with
  | nil => simp
  | @text path paths bytes first files notices found snapshot read ih =>
    have same : file = first ↔
        file.path = Path.display path ∧ fs.readBytes (Path.join base path) = .ok file.content.toUTF8 := by
      rw [found, ← snapshot.content, ← snapshot.shown, Except.ok.injEq]
      constructor
      · rintro rfl
        exact ⟨rfl, rfl⟩
      · rintro ⟨shown, content⟩
        have text : first.content = file.content := String.toByteArray_inj.mp content
        cases file
        cases first
        simp_all
    rw [List.mem_cons, ih, same, List.exists_mem_cons_iff]
  | @notText path paths bytes files notices found invalid read ih =>
    rw [ih, List.exists_mem_cons_iff, found, Except.ok.injEq]
    refine (or_iff_right ?_).symm
    rintro ⟨_, rfl⟩
    exact invalid file.content.isValidUTF8

theorem ReadAs.readable (read : ReadAs fs base paths files notices) :
    ∀ path ∈ paths, ∃ bytes, fs.readBytes (Path.join base path) = .ok bytes := by
  induction read with
  | nil => exact List.forall_mem_nil _
  | text found _ _ ih | notText found _ _ ih => exact List.forall_mem_cons.mpr ⟨⟨_, found⟩, ih⟩

end Discovery

namespace Fixtures

open Discovery (Before ReadAs readSources)
open PolicyLint.Path (Spelled)

variable {fs : FileSystem} {base rule rule' label label' name name' : String} {names names' : List String}

def place (rule label name : String) : String := rule ++ "/" ++ label ++ "/" ++ name

def directory (base rule label : String) : String := Path.join (Path.join base rule) label

/-- A regular file that is not hidden stands directly in the directory of the label. -/
structure Stands (fs : FileSystem) (base rule label name : String) (content : ByteArray) : Prop where
  entry : ∃ entries, fs.resolve (directory base rule label) = .ok (.directory entries) ∧ (name, .file content) ∈ entries
  visible : Path.isHiddenName name = false

theorem spelled_place (spelled : Spelled rule names) (spelled' : Spelled label [label]) (proper : FileTree.ProperName name) :
    Spelled (place rule label name) (names ++ [label, name]) := by
  simpa [place] using (spelled.append spelled').append proper.spelled

theorem join_directory (base : String) (spelled : Spelled rule names) (spelled' : Spelled label [label])
    (proper : FileTree.ProperName name) :
    Path.join (directory base rule label) name = Path.join base (place rule label name) := by
  rw [directory, Path.join_join base spelled spelled', Path.join_join base (spelled.append spelled') proper.spelled]
  rfl

theorem relativeTo_directory (base : String) (spelled : Spelled rule names) (spelled' : Spelled label [label])
    (proper : FileTree.ProperName name) :
    Path.relativeTo (Path.join (directory base rule label) name) base = place rule label name := by
  rw [join_directory base spelled spelled' proper, Path.relativeTo_join base (spelled_place spelled spelled' proper)]

namespace Stands

variable {content : ByteArray}

theorem proper (root : fs.root.Proper) (stands : Stands fs base rule label name content) : FileTree.ProperName name := by
  obtain ⟨entries, resolved, member⟩ := stands.entry
  exact ((FileTree.proper_directory.mp (FileSystem.proper_resolve root resolved)).2 _ member).1

theorem readBytes (root : fs.root.Proper) (spelled : Spelled rule names) (spelled' : Spelled label [label])
    (stands : Stands fs base rule label name content) :
    fs.readBytes (Path.join base (place rule label name)) =
      if FileSystem.longestPath < (Path.join base (place rule label name)).utf8ByteSize then .error .nameTooLong
      else .ok content := by
  obtain ⟨entries, resolved, member⟩ := stands.entry
  rw [← join_directory base spelled spelled' (stands.proper root)]
  exact FileSystem.readBytes_entry root resolved member

end Stands

/-- The last two names of a path and the ones before them follow from its steps. -/
theorem eq_of_steps {path path' : String} (spelled : Spelled path (names ++ [label, name]))
    (spelled' : Spelled path' (names' ++ [label', name'])) (same : Path.steps path = Path.steps path') :
    names = names' ∧ label = label' ∧ name = name' := by
  rw [spelled.steps, spelled'.steps] at same
  have lists := List.map_injective_iff.mpr (fun _ _ => Step.name.inj) same
  obtain ⟨front, back⟩ := List.append_inj' lists rfl
  obtain ⟨label, back⟩ := List.cons.inj back
  exact ⟨front, label, List.head_eq_of_cons_eq back⟩

theorem mem_filesIn {path : String} (root : fs.root.Proper) (spelled : Spelled rule names)
    (spelled' : Spelled label [label]) : path ∈ filesIn fs base (directory base rule label) ↔
      ∃ name content, Stands fs base rule label name content ∧ path = place rule label name := by
  have seen : ∀ {name content}, Stands fs base rule label name content →
      Path.relativeTo (Path.join (directory base rule label) name) base = place rule label name :=
    fun stands => relativeTo_directory base spelled spelled' (stands.proper root)
  constructor
  · intro member
    unfold filesIn at member
    split at member
    · rename_i entries resolved
      obtain ⟨name, there, rfl⟩ := List.mem_map.mp (List.mem_mergeSort.mp member)
      obtain ⟨⟨_, tree⟩, listed, rfl⟩ := List.mem_map.mp there
      obtain ⟨entry, kept⟩ := List.mem_filter.mp listed
      cases tree with
      | file content =>
        have stands : Stands fs base rule label _ content :=
          ⟨⟨entries, resolved, entry⟩, by simpa [FileTree.isFile] using kept⟩
        exact ⟨_, content, stands, seen stands⟩
      | link target => cases kept
      | directory entries => cases kept
    · cases member
  · rintro ⟨name, content, stands, rfl⟩
    obtain ⟨entries, resolved, member⟩ := stands.entry
    rw [filesIn, resolved]
    have listed : (name, FileTree.file content) ∈ entries.filter fun e => e.2.isFile && !Path.isHiddenName e.1 :=
      List.mem_filter.mpr ⟨member, by simp [FileTree.isFile, stands.visible]⟩
    exact List.mem_mergeSort.mpr (List.mem_map.mpr ⟨name, List.mem_map_of_mem listed, seen stands⟩)

theorem ascending_filesIn (root : fs.root.Proper) (spelled : Spelled rule names) (spelled' : Spelled label [label]) :
    (filesIn fs base (directory base rule label)).Pairwise Before := by
  unfold filesIn
  split
  · rename_i entries resolved
    obtain ⟨nodup, proper⟩ := FileTree.proper_directory.mp (FileSystem.proper_resolve root resolved)
    refine List.Pairwise.and (sortedBy_mergeSort keyOrder_stepsLe Path.steps _) ?_
    rw [(List.mergeSort_perm _ _).pairwise_iff Ne.symm, List.pairwise_map]
    refine List.Pairwise.imp_of_mem ?_ ((List.filter_sublist.map _).nodup nodup)
    intro name name' member member' other same
    have placed : ∀ n, n ∈ (entries.filter fun e => e.2.isFile && !Path.isHiddenName e.1).map (·.1) →
        Path.relativeTo (Path.join (directory base rule label) n) base = place rule label n ∧
          Spelled (place rule label n) (names ++ [label, n]) := by
      intro n there
      obtain ⟨entry, listed, rfl⟩ := List.mem_map.mp there
      have named := (proper entry (List.mem_filter.mp listed).1).1
      exact ⟨relativeTo_directory base spelled spelled' named, spelled_place spelled spelled' named⟩
    rw [(placed name member).1, (placed name' member').1] at same
    exact other (eq_of_steps (placed name member).2 (placed name' member').2 same).2.2
  · exact List.Pairwise.nil

/-! ### Sets of fixtures -/

/-- The files under a label of a rule: the texts that stand there, by ascending paths that lead down through the rule's
directory and the label's. -/
structure Labeled (fs : FileSystem) (base rule label : String) (files : List SourceFile) : Prop where
  mem_iff : ∀ file, file ∈ files ↔
    ∃ name, Stands fs base rule label name file.content.toUTF8 ∧ file.path = place rule label name
  ascending : (files.map SourceFile.path).Pairwise Before
  below : ∀ file ∈ files, ∃ names name, Spelled rule names ∧ Spelled file.path (names ++ [label, name])

theorem labeled_of_readIn {files : List SourceFile} {notices : List Notice} (root : fs.root.Proper)
    (spelled : Spelled rule names) (spelled' : Spelled label [label])
    (read : readIn fs base (directory base rule label) = .ok (files, notices)) : Labeled fs base rule label files := by
  have reads := Discovery.readAs_of_readSources read
  have shown : ∀ {name content}, Stands fs base rule label name content →
      Path.display (place rule label name) = place rule label name :=
    fun stands => (spelled_place spelled spelled' (stands.proper root)).display
  have mem_iff : ∀ file, file ∈ files ↔
      ∃ name, Stands fs base rule label name file.content.toUTF8 ∧ file.path = place rule label name := by
    intro file
    rw [reads.mem_iff]
    constructor
    · rintro ⟨path, member, path', bytes⟩
      obtain ⟨name, content, stands, rfl⟩ := (mem_filesIn root spelled spelled').mp member
      rw [stands.readBytes root spelled spelled'] at bytes
      split_ifs at bytes
      obtain rfl := Except.ok.inj bytes
      exact ⟨name, stands, path'.trans (shown stands)⟩
    · rintro ⟨name, stands, path⟩
      have member := (mem_filesIn root spelled spelled').mpr ⟨name, _, stands, rfl⟩
      refine ⟨_, member, path.trans (shown stands).symm, ?_⟩
      obtain ⟨bytes, ok⟩ := reads.readable _ member
      rw [stands.readBytes root spelled spelled'] at ok ⊢
      split_ifs at ok ⊢
      rfl
  refine ⟨mem_iff, ?_, fun file member => ?_⟩
  · have same : (filesIn fs base (directory base rule label)).map Path.display =
        filesIn fs base (directory base rule label) := by
      refine (List.map_congr_left fun path member => ?_).trans (List.map_id _)
      obtain ⟨name, content, stands, rfl⟩ := (mem_filesIn root spelled spelled').mp member
      exact shown stands
    exact (ascending_filesIn root spelled spelled').sublist (same ▸ reads.displayed)
  · obtain ⟨name, stands, path⟩ := (mem_iff file).mp member
    exact ⟨names, name, spelled, path ▸ spelled_place spelled spelled' (stands.proper root)⟩

structure TooFar (fs : FileSystem) (base rule label name : String) : Prop where
  stands : ∃ content, Stands fs base rule label name content
  long : FileSystem.longestPath < (Path.join base (place rule label name)).utf8ByteSize

theorem readIn_cases (root : fs.root.Proper) (spelled : Spelled rule names) (spelled' : Spelled label [label]) :
    (∃ files notices, readIn fs base (directory base rule label) = .ok (files, notices)) ∨
      ∃ name, TooFar fs base rule label name ∧
        readIn fs base (directory base rule label) = .error (.unreadable (place rule label name) .nameTooLong) := by
  refine (Discovery.readSources_cases fs base _).imp_right ?_
  rintro ⟨path, member, fault, unreadable, failed⟩
  obtain ⟨name, content, stands, rfl⟩ := (mem_filesIn root spelled spelled').mp member
  rw [stands.readBytes root spelled spelled'] at unreadable
  split_ifs at unreadable with long
  obtain rfl := Except.error.inj unreadable
  exact ⟨name, ⟨⟨content, stands⟩, long⟩, failed⟩

/-- The fixtures of a rule: those of each label, and no path under both. -/
structure Complete (fs : FileSystem) (base rule : String) (s : Fixtures) : Prop where
  correct : Labeled fs base rule "correct" s.correct
  incorrect : Labeled fs base rule "incorrect" s.incorrect
  apart : ∀ f ∈ s.correct, ∀ f' ∈ s.incorrect, Path.steps f.path ≠ Path.steps f'.path

theorem spelled_correct : Spelled "correct" ["correct"] := .of_name (by decide +kernel) (by decide +kernel)

theorem spelled_incorrect : Spelled "incorrect" ["incorrect"] := .of_name (by decide +kernel) (by decide +kernel)

/-- Files under different labels, or of different rules, have different paths. -/
theorem Labeled.apart {files files' : List SourceFile} (labeled : Labeled fs base rule label files)
    (labeled' : Labeled fs base rule' label' files') (other : rule ≠ rule' ∨ label ≠ label') :
    ∀ f ∈ files, ∀ f' ∈ files', Path.steps f.path ≠ Path.steps f'.path := by
  intro f member f' member' same
  obtain ⟨names, name, spelled, below⟩ := labeled.below f member
  obtain ⟨names', name', spelled', below'⟩ := labeled'.below f' member'
  obtain ⟨rfl, label, _⟩ := eq_of_steps below below' same
  exact other.elim (fun apart => apart (spelled.unique spelled')) (fun apart => apart label)

theorem Complete.labeled_of_mem {s : Fixtures} (complete : Complete fs base rule s) {f : SourceFile}
    (member : f ∈ s.correct ++ s.incorrect) : ∃ label files, Labeled fs base rule label files ∧ f ∈ files := by
  rcases List.mem_append.mp member with here | here
  · exact ⟨_, _, complete.correct, here⟩
  · exact ⟨_, _, complete.incorrect, here⟩

theorem complete_of_read {s : Fixtures} {notices : List Notice} (root : fs.root.Proper) (spelled : Spelled rule names)
    (read : read fs base rule = .ok (s, notices)) : Complete fs base rule s := by
  obtain ⟨⟨correct, first⟩, reads, read⟩ := Json.bind_ok read
  obtain ⟨⟨incorrect, second⟩, reads', read⟩ := Json.bind_ok read
  cases read
  have labeled := labeled_of_readIn root spelled spelled_correct reads
  have labeled' := labeled_of_readIn root spelled spelled_incorrect reads'
  exact ⟨labeled, labeled', labeled.apart labeled' (Or.inr (by decide))⟩

theorem read_eq (fs : FileSystem) (base rule : String) : read fs base rule = do
    let (correct, notices) ← readIn fs base (directory base rule "correct")
    let (incorrect, moreNotices) ← readIn fs base (directory base rule "incorrect")
    return ({ correct, incorrect }, notices ++ moreNotices) := rfl

theorem read_cases (root : fs.root.Proper) (spelled : Spelled rule names) :
    (∃ s notices, read fs base rule = .ok (s, notices)) ∨
      ∃ label ∈ ["correct", "incorrect"], ∃ name, TooFar fs base rule label name ∧
        read fs base rule = .error (.unreadable (place rule label name) .nameTooLong) := by
  rw [read_eq]
  rcases readIn_cases root spelled spelled_correct with ⟨correct, notices, ok⟩ | ⟨name, far, failed⟩
  · rw [ok]
    rcases readIn_cases root spelled spelled_incorrect with ⟨incorrect, notices', ok'⟩ | ⟨name, far, failed⟩
    · rw [ok']
      exact Or.inl ⟨_, _, rfl⟩
    · rw [failed]
      exact Or.inr ⟨"incorrect", by decide, name, far, rfl⟩
  · rw [failed]
    exact Or.inr ⟨"correct", by decide, name, far, rfl⟩

/-- The fixtures of a rule are the regular files directly in its own two directories, as far as they can be opened. No path
is a fixture twice: not under the two labels of a rule, and not of two rules, wherever their directories lie. -/
theorem read_apart (root : fs.root.Proper) (valid : Rule.isValidName rule = true) (valid' : Rule.isValidName rule' = true) :
    ((∃ s notices, read fs base rule = .ok (s, notices) ∧ Complete fs base rule s) ∨
      ∃ label ∈ ["correct", "incorrect"], ∃ name, TooFar fs base rule label name ∧
        read fs base rule = .error (.unreadable (place rule label name) .nameTooLong)) ∧
    (rule ≠ rule' → ∀ s notices s' notices', read fs base rule = .ok (s, notices) →
      read fs base rule' = .ok (s', notices') →
      ∀ f ∈ s.correct ++ s.incorrect, ∀ f' ∈ s'.correct ++ s'.incorrect, Path.steps f.path ≠ Path.steps f'.path) := by
  obtain ⟨names, spelled⟩ := Rule.spelled_of_isValidName valid
  obtain ⟨names', spelled'⟩ := Rule.spelled_of_isValidName valid'
  constructor
  · refine (read_cases root spelled).imp_left ?_
    rintro ⟨s, notices, ok⟩
    exact ⟨s, notices, ok, complete_of_read root spelled ok⟩
  · intro other s notices s' notices' ok ok' f member f' member'
    obtain ⟨label, files, labeled, here⟩ := (complete_of_read root spelled ok).labeled_of_mem member
    obtain ⟨label', files', labeled', there⟩ := (complete_of_read root spelled' ok').labeled_of_mem member'
    exact labeled.apart labeled' (Or.inl other) f here f' there

/-- Under a label with one visible file only this one is read. -/
theorem readIn_single (name text : String) {entries : List (String × FileTree)} (root : fs.root.Proper)
    (spelled : Spelled rule names) (spelled' : Spelled label [label])
    (resolved : fs.resolve (directory base rule label) = .ok (.directory entries))
    (member : (name, .file text.toUTF8) ∈ entries)
    (visible : (entries.filter fun e => e.2.isFile && !Path.isHiddenName e.1).map (·.1) = [name])
    (shown : Path.isHiddenName name = false)
    (short : (Path.join base (place rule label name)).utf8ByteSize ≤ FileSystem.longestPath) :
    readIn fs base (directory base rule label) = .ok ([⟨place rule label name, text⟩], []) := by
  have stands : Stands fs base rule label name text.toUTF8 := ⟨⟨entries, resolved, member⟩, shown⟩
  have placed := spelled_place spelled spelled' (stands.proper root)
  have read : fs.readText (Path.join base (place rule label name)) = .ok text := by
    rw [FileSystem.readText, stands.readBytes root spelled spelled', if_neg (Nat.not_lt.mpr short)]
    simp only [bind, Except.bind, String.fromUTF8?, String.toUTF8_eq_toByteArray, dif_pos text.isValidUTF8]
    rfl
  have found : filesIn fs base (directory base rule label) = [place rule label name] := by
    rw [filesIn, resolved]
    simp only [visible, List.map_cons, List.map_nil, List.mergeSort_singleton]
    rw [relativeTo_directory base spelled spelled' (stands.proper root)]
  rw [readIn, found, Discovery.readSources_cons read, Discovery.readFirst, placed.display]
  rfl

/-- The rule `a/correct` has its directory among the fixtures of the rule `a`. -/
theorem read_apart_of_nested :
    let fs : FileSystem := { root := .directory [("a", .directory
      [("correct", .directory [("b", .file "x".toUTF8), (".b", .file "y".toUTF8),
        ("correct", .directory [("b", .file "z".toUTF8)]), ("incorrect", .directory [("b", .file "v".toUTF8)])]),
      ("incorrect", .directory [("b", .file "w".toUTF8)])])] }
    let s : Fixtures := { correct := [⟨"a/correct/b", "x"⟩], incorrect := [⟨"a/incorrect/b", "w"⟩] }
    let s' : Fixtures := { correct := [⟨"a/correct/correct/b", "z"⟩], incorrect := [⟨"a/correct/incorrect/b", "v"⟩] }
    fs.root.Proper ∧ Rule.isValidName "a" = true ∧ Rule.isValidName "a/correct" = true ∧
      read fs "/" "a" = .ok (s, []) ∧ read fs "/" "a/correct" = .ok (s', []) ∧ Complete fs "/" "a" s ∧
      ∀ f ∈ s.correct ++ s.incorrect, ∀ f' ∈ s'.correct ++ s'.incorrect, Path.steps f.path ≠ Path.steps f'.path := by
  intro fs s s'
  have root : fs.root.Proper := by
    simp only [fs, FileTree.proper_directory, List.forall_mem_cons]
    simp [FileTree.proper_file]
    decide +kernel
  have top : fs.resolve "/" = .ok fs.root := by
    refine FileSystem.resolve_ok.mpr ⟨by decide +kernel, [], ?_, rfl⟩
    rw [FileSystem.start, if_pos (by decide +kernel), show Path.parts "/" = [[], []] by decide +kernel]
    simp [FileSystem.follow, FileSystem.Trail.tree, fs, FileTree.isDirectory]
  -- each directory is found behind the one that holds it
  have a := FileSystem.resolve_entry root top List.mem_cons_self (FileTree.directory_ne_link _)
  rw [if_neg (by decide +kernel), show Path.join "/" "a" = "/a" by decide +kernel] at a
  have correct := FileSystem.resolve_entry root a List.mem_cons_self (FileTree.directory_ne_link _)
  rw [if_neg (by decide +kernel), show Path.join "/a" "correct" = "/a/correct" by decide +kernel] at correct
  have incorrect := FileSystem.resolve_entry root a (.tail _ (.head _)) (FileTree.directory_ne_link _)
  rw [if_neg (by decide +kernel), show Path.join "/a" "incorrect" = directory "/" "a" "incorrect" by decide +kernel] at incorrect
  have nested := FileSystem.resolve_entry root correct (.tail _ (.tail _ (.head _))) (FileTree.directory_ne_link _)
  rw [if_neg (by decide +kernel),
    show Path.join "/a/correct" "correct" = directory "/" "a/correct" "correct" by decide +kernel] at nested
  have nested' := FileSystem.resolve_entry root correct (.tail _ (.tail _ (.tail _ (.head _)))) (FileTree.directory_ne_link _)
  rw [if_neg (by decide +kernel),
    show Path.join "/a/correct" "incorrect" = directory "/" "a/correct" "incorrect" by decide +kernel] at nested'
  rw [show "/a/correct" = directory "/" "a" "correct" by decide +kernel] at correct
  have valid : Rule.isValidName "a" = true := by decide +kernel
  have valid' : Rule.isValidName "a/correct" = true := by decide +kernel
  obtain ⟨names, spelled⟩ := Rule.spelled_of_isValidName valid
  obtain ⟨names', spelled'⟩ := Rule.spelled_of_isValidName valid'
  have ok : read fs "/" "a" = .ok (s, []) := by
    rw [read_eq, readIn_single "b" "x" root spelled spelled_correct correct (.head _) (by decide +kernel) (by decide +kernel)
      (by decide +kernel), readIn_single "b" "w" root spelled spelled_incorrect incorrect (.head _) (by decide +kernel)
      (by decide +kernel) (by decide +kernel)]
    decide +kernel
  have ok' : read fs "/" "a/correct" = .ok (s', []) := by
    rw [read_eq, readIn_single "b" "z" root spelled' spelled_correct nested (.head _) (by decide +kernel) (by decide +kernel)
      (by decide +kernel), readIn_single "b" "v" root spelled' spelled_incorrect nested' (.head _) (by decide +kernel)
      (by decide +kernel) (by decide +kernel)]
    decide +kernel
  obtain ⟨whole, apart⟩ := read_apart root valid valid'
  refine ⟨root, valid, valid', ok, ok', ?_, apart (by decide) s [] s' [] ok ok'⟩
  rcases whole with ⟨t, notices, read, complete⟩ | ⟨_, _, _, _, failed⟩
  · rw [ok] at read
    cases read
    exact complete
  · rw [ok] at failed
    cases failed

end Fixtures

end PolicyLint
