import PolicyLint.Discovery.Basic
import PolicyLint.Proofs.Json.Origin
import PolicyLint.Proofs.Path
import PolicyLint.Proofs.Review.Input

/-!
# Discovered files as input

Discovered paths ascend, so no two of them have the same steps. The files read from them are the texts among them, in
their order, and no two of these are displayed alike: `sources_of_discovered` says that a review never refuses them.
-/

namespace PolicyLint

open Json (bind_ok)

/-! ### Reading text -/

namespace FileSystem

variable {fs : FileSystem} {path : String} {fault : FileFault}

theorem follow_fault {lastToo : Bool} {links : Nat} {trail : Trail} {parts : List (List Char)}
    (failed : fs.follow lastToo links trail parts = .error fault) : fault ≠ .invalidText := by
  fun_induction follow fs lastToo links trail parts with
  | case1 | case7 => cases failed
  | case2 | case5 | case6 | case8 =>
    cases failed
    exact nofun
  | case3 _ _ _ _ _ _ _ ih | case4 _ _ _ _ _ _ ih | case9 _ _ _ _ _ _ _ _ _ _ _ _ _ ih
  | case10 _ _ _ _ _ _ _ _ _ _ _ _ _ ih => exact ih failed

theorem checkPath_fault (failed : checkPath path = .error fault) : fault ≠ .invalidText := by
  unfold checkPath at failed
  split_ifs at failed <;> cases failed <;> exact nofun

theorem readBytes_fault (failed : fs.readBytes path = .error fault) : fault ≠ .invalidText := by
  unfold readBytes resolve locate at failed
  cases checked : checkPath path with
  | error other =>
    rw [checked] at failed
    cases failed
    exact checkPath_fault checked
  | ok _ =>
    rw [checked] at failed
    cases followed : fs.follow true maxLinks (fs.start path) (Path.parts path) with
    | error other =>
      simp only [bind, Except.bind, followed, Except.map] at failed
      cases failed
      exact follow_fault followed
    | ok trail =>
      simp only [bind, Except.bind, followed, Except.map] at failed
      split at failed <;> cases failed
      exact nofun

theorem readText_cases (fs : FileSystem) (path : String) :
    (∃ text, fs.readText path = .ok text ∧ fs.readBytes path = .ok text.toUTF8) ∨
      (∃ bytes, fs.readText path = .error .invalidText ∧ fs.readBytes path = .ok bytes ∧ ¬bytes.IsValidUTF8) ∨
      ∃ fault, fault ≠ .invalidText ∧ fs.readText path = .error fault := by
  unfold readText
  cases read : fs.readBytes path with
  | error fault => exact Or.inr (Or.inr ⟨fault, readBytes_fault read, rfl⟩)
  | ok bytes =>
    by_cases valid : bytes.IsValidUTF8
    · refine Or.inl ⟨String.fromUTF8 bytes valid, ?_, rfl⟩
      simp only [bind, Except.bind, String.fromUTF8?, dif_pos valid]
      rfl
    · refine Or.inr (Or.inl ⟨bytes, ?_, rfl, valid⟩)
      simp only [bind, Except.bind, String.fromUTF8?, dif_neg valid]
      rfl

/-! ### Files in the root directory -/

theorem follow_blank {lastToo : Bool} {links : Nat} {trail : Trail} {part : List Char} (parts : List (List Char))
    (directory : (trail.tree fs).isDirectory = true) (blank : part = [] ∨ part = ['.']) :
    fs.follow lastToo links trail (part :: parts) = fs.follow lastToo links trail parts := by
  rw [follow]
  simp [directory, blank]

/-- An absolute path leads to the file that its last part names, if no other part counts. -/
theorem resolve_file {entries : List (String × FileTree)} {content : ByteArray} (blanks : List (List Char))
    (part : List Char) (root : fs.root = .directory entries) (sound : checkPath path = .ok ())
    (absolute : Path.isAbsolute path = true) (split : Path.parts path = blanks ++ [part])
    (skips : ∀ blank ∈ blanks, blank = [] ∨ blank = ['.']) (proper : part ≠ [] ∧ part ≠ ['.'] ∧ part ≠ ['.', '.'])
    (short : (String.ofList part).utf8ByteSize ≤ longestName)
    (found : entries.lookup (String.ofList part) = some (.file content)) (lastToo : Bool) :
    fs.resolve path lastToo = .ok (.file content) := by
  have passed : fs.follow lastToo maxLinks [] (blanks ++ [part]) = fs.follow lastToo maxLinks [] [part] := by
    clear split
    induction blanks with
    | nil => rfl
    | cons blank blanks ih =>
      rw [List.forall_mem_cons] at skips
      rw [List.cons_append, follow_blank _ (by simp [Trail.tree, root, FileTree.isDirectory]) skips.1, ih skips.2]
  have last : fs.follow lastToo maxLinks [] [part] = .ok [(String.ofList part, .file content)] := by
    obtain ⟨full, dot, dots⟩ := proper
    rw [follow]
    simp [Trail.tree, root, FileTree.isDirectory, FileTree.child?, full, dot, dots, found, Nat.not_lt.mpr short, follow]
  rw [resolve, locate, sound, start, if_pos absolute, split]
  simp only [bind, Except.bind, passed, last]
  rfl

end FileSystem

namespace Discovery

/-! ### Ascending paths -/

/-- The first path stands before the second one, and they do not have the same steps. -/
def Before (a b : String) : Prop := Path.le a b = true ∧ Path.steps a ≠ Path.steps b

theorem mem_of_mem_go {last path : String} {rest : List String} (member : path ∈ dropRepeated.go last rest) :
    path ∈ rest := by
  induction rest generalizing last with
  | nil => cases member
  | cons next rest ih =>
    rw [dropRepeated.go] at member
    split at member
    · exact List.mem_cons_of_mem _ (ih member)
    · rcases List.mem_cons.mp member with rfl | later
      · exact List.mem_cons_self
      · exact List.mem_cons_of_mem _ (ih later)

theorem ascending_go {last : String} {rest : List String} (sorted : SortedBy stepsLe Path.steps (last :: rest)) :
    (last :: dropRepeated.go last rest).Pairwise Before := by
  induction rest generalizing last with
  | nil => exact List.pairwise_singleton _ _
  | cons next rest ih =>
    obtain ⟨least, sorted⟩ := List.pairwise_cons.mp sorted
    rw [dropRepeated.go]
    split
    · refine ih (List.pairwise_cons.mpr ⟨fun path member => ?_, (List.pairwise_cons.mp sorted).2⟩)
      exact least path (List.mem_cons_of_mem _ member)
    · rename_i different
      refine List.pairwise_cons.mpr ⟨fun path member => ⟨?_, ?_⟩, ih sorted⟩
      · rcases List.mem_cons.mp member with rfl | later
        · exact least _ List.mem_cons_self
        · exact least path (List.mem_cons_of_mem _ (mem_of_mem_go later))
      · -- a later path with the steps of the last one would put the next path at the same place
        intro same
        have above : stepsLe (Path.steps next) (Path.steps path) = true := by
          rcases List.mem_cons.mp member with rfl | later
          · exact keyOrder_stepsLe.refl _
          · exact (List.pairwise_cons.mp sorted).1 path (mem_of_mem_go later)
        rw [← same] at above
        exact different (stepsLe_antisymm above (least next List.mem_cons_self))

theorem ascending_dropRepeated {paths : List String} (sorted : SortedBy stepsLe Path.steps paths) :
    (dropRepeated paths).Pairwise Before := by
  cases paths with
  | nil => exact List.Pairwise.nil
  | cons path rest => exact ascending_go sorted

theorem ascending_discover {fs : FileSystem} {filter : Filter} {patterns paths : List String} {base : String}
    (found : discover fs filter patterns base = .ok paths) : paths.Pairwise Before := by
  obtain ⟨⟨named, globs⟩, _, found⟩ := bind_ok found
  obtain ⟨set, _, found⟩ := bind_ok found
  obtain rfl := Except.ok.inj found
  exact ascending_dropRepeated (sortedBy_mergeSort keyOrder_stepsLe Path.steps _)

/-! ### Sources -/

/-- A file that was made of these bytes: their text under the displayed path, with the fingerprint of the bytes. -/
structure Snapshot (path : String) (bytes : ByteArray) (file : SourceFile) : Prop where
  shown : file.path = Path.display path
  content : file.content.toUTF8 = bytes
  fingerprint : file.fingerprint = Blake3.hex bytes.data.toList

/-- Paths, the files that were made of them, and the notices about those of which none was made. Each path leads to the
bytes of a file; it is left out if they encode no text. -/
inductive ReadAs (fs : FileSystem) (base : String) : List String → List SourceFile → List Notice → Prop where
  | nil : ReadAs fs base [] [] []
  | text {path : String} {paths : List String} {bytes : ByteArray} {file : SourceFile} {files : List SourceFile}
      {notices : List Notice} :
      fs.readBytes (Path.join base path) = .ok bytes → Snapshot path bytes file → ReadAs fs base paths files notices →
      ReadAs fs base (path :: paths) (file :: files) notices
  | notText {path : String} {paths : List String} {bytes : ByteArray} {files : List SourceFile} {notices : List Notice} :
      fs.readBytes (Path.join base path) = .ok bytes → ¬bytes.IsValidUTF8 → ReadAs fs base paths files notices →
      ReadAs fs base (path :: paths) files (.notText path :: notices)

variable {fs : FileSystem} {base : String} {paths : List String} {files : List SourceFile} {notices : List Notice}

def readFirst (path : String) (text : Except FileFault String) (others : Except Fault (List SourceFile × List Notice)) :
    Except Fault (List SourceFile × List Notice) :=
  match text with
  | .ok content => do
    let (files, notices) ← others
    return ({ path := Path.display path, content } :: files, notices)
  | .error .invalidText => do
    let (files, notices) ← others
    return (files, .notText path :: notices)
  | .error fault => .error (.unreadable path fault)

theorem readSources_cons {path : String} {text : Except FileFault String} (read : fs.readText (Path.join base path) = text)
    (rest : List String) : readSources fs base (path :: rest) = readFirst path text (readSources fs base rest) := by
  subst read
  rfl

theorem readAs_of_readSources (read : readSources fs base paths = .ok (files, notices)) :
    ReadAs fs base paths files notices := by
  induction paths generalizing files notices with
  | nil =>
    cases read
    exact .nil
  | cons path rest ih =>
    rcases fs.readText_cases (Path.join base path) with
      ⟨text, readable, bytes⟩ | ⟨bytes, unreadable, bytes', invalid⟩ | ⟨fault, other, unreadable⟩
    · rw [readSources_cons readable] at read
      obtain ⟨⟨others, later⟩, reads, read⟩ := bind_ok read
      cases read
      exact .text bytes ⟨rfl, rfl, rfl⟩ (ih reads)
    · rw [readSources_cons unreadable] at read
      obtain ⟨⟨others, later⟩, reads, read⟩ := bind_ok read
      cases read
      exact .notText bytes' invalid (ih reads)
    · rw [readSources_cons unreadable] at read
      cases fault with
      | invalidText => exact absurd rfl other
      | _ => cases read

theorem ReadAs.displayed (read : ReadAs fs base paths files notices) :
    (files.map SourceFile.path).Sublist (paths.map Path.display) := by
  induction read with
  | nil => exact List.Sublist.slnil
  | text _ snapshot _ ih =>
    rw [List.map_cons, List.map_cons, snapshot.shown]
    exact ih.cons_cons _
  | notText _ _ _ ih => exact ih.cons _

theorem nodup_of_ascending (ascending : paths.Pairwise Before) (read : ReadAs fs base paths files notices) :
    (files.map SourceFile.path).Nodup := by
  have apart : (paths.map Path.display).Nodup :=
    List.pairwise_map.mpr (ascending.imp fun before same => before.2 (Path.display_eq_display.mp same))
  exact read.displayed.nodup apart

end Discovery

theorem validateNames_ne_duplicatePath (seen : List String) (rules : List Rule) (path : String) :
    validateNames seen rules ≠ .error (.duplicatePath path) := by
  induction rules generalizing seen with
  | nil =>
    intro refused
    cases refused
  | cons rule rest ih =>
    rw [validateNames]
    by_cases valid : Rule.isValidName rule.name = true
    · by_cases again : seen.contains rule.name = true
      · rw [if_neg (by simp [valid]), if_pos again]
        intro refused
        cases refused
      · rw [if_neg (by simp [valid]), if_neg again]
        exact ih _
    · rw [if_pos (by simp [valid])]
      intro refused
      cases refused

theorem validateRules_ne_duplicatePath (rules : List Rule) (path : String) :
    validateRules rules ≠ .error (.duplicatePath path) := by
  cases rules with
  | nil =>
    intro refused
    cases refused
  | cons rule rest => exact validateNames_ne_duplicatePath [] (rule :: rest) path

theorem validateInputs_of_distinct {files : List SourceFile} (distinct : (files.map SourceFile.path).Nodup)
    (rules : List Rule) : validateInputs files rules = validateRules rules := by
  have start : (([] : List SourceFile).map SourceFile.path).Nodup := List.nodup_nil
  have paths : validatePaths [] files = .ok () := by
    rcases validatePaths_cases start files with ⟨valid, _⟩ | ⟨before, file, after, split, _, seen, _⟩
    · exact valid
    · rw [List.nil_append] at split
      subst split
      exact absurd distinct (not_nodup_of_seen seen)
  rw [validateInputs, paths]
  cases validateRules rules <;> rfl

namespace Discovery

/-- The files that are read from discovered paths are the texts among them, in the order of the paths, each with its own
content. Their paths are distinct, so whether they are accepted as input is a matter of the rules alone. -/
theorem sources_of_discovered {fs : FileSystem} {filter : Filter} {patterns paths : List String} {base : String}
    {files : List SourceFile} {notices : List Notice} (found : discover fs filter patterns base = .ok paths)
    (read : readSources fs base paths = .ok (files, notices)) :
    ReadAs fs base paths files notices ∧ (files.map SourceFile.path).Nodup ∧
      ∀ rules, validateInputs files rules = validateRules rules ∧
        ∀ path, validateInputs files rules ≠ .error (.duplicatePath path) := by
  have reads := readAs_of_readSources read
  have distinct := nodup_of_ascending (ascending_discover found) reads
  refine ⟨reads, distinct, fun rules => ?_⟩
  have same := validateInputs_of_distinct distinct rules
  exact ⟨same, fun path => same ▸ validateRules_ne_duplicatePath rules path⟩

/-- Two spellings of one file, and a file that is no text. -/
theorem sources_of_discovered_of_spellings :
    let fs : FileSystem := { root := .directory [("a.rs", .file "fn a".toUTF8), ("b.rs", .file ⟨#[0xFF]⟩)] }
    let file : SourceFile := { path := "a.rs", content := "fn a" }
    discover fs {} ["./a.rs", "a.rs", "b.rs"] "/" = .ok ["a.rs", "b.rs"] ∧
      readSources fs "/" ["a.rs", "b.rs"] = .ok ([file], [.notText "b.rs"]) ∧
      ReadAs fs "/" ["a.rs", "b.rs"] [file] [.notText "b.rs"] ∧ validateInputs [file] [] = .error .noRules := by
  intro fs file
  have dotted : ∀ lastToo, fs.resolve "/./a.rs" lastToo = .ok (.file "fn a".toUTF8) :=
    FileSystem.resolve_file [[], ['.']] ['a', '.', 'r', 's'] rfl (by decide +kernel) (by decide +kernel)
      (by decide +kernel) (by decide) (by decide) (by decide) rfl
  have plain : ∀ lastToo, fs.resolve "/a.rs" lastToo = .ok (.file "fn a".toUTF8) :=
    FileSystem.resolve_file [[]] ['a', '.', 'r', 's'] rfl (by decide +kernel) (by decide +kernel)
      (by decide +kernel) (by decide) (by decide) (by decide) rfl
  have binary : ∀ lastToo, fs.resolve "/b.rs" lastToo = .ok (.file ⟨#[0xFF]⟩) :=
    FileSystem.resolve_file [[]] ['b', '.', 'r', 's'] rfl (by decide +kernel) (by decide +kernel)
      (by decide +kernel) (by decide) (by decide) (by decide) rfl
  have found : discover fs {} ["./a.rs", "a.rs", "b.rs"] "/" = .ok ["a.rs", "b.rs"] := by
    have first : fs.isPlainFile (Path.join "/" "./a.rs") = true := by
      rw [FileSystem.isPlainFile, show Path.join "/" "./a.rs" = "/./a.rs" by decide +kernel, dotted]
    have second : fs.isPlainFile (Path.join "/" "a.rs") = true := by
      rw [FileSystem.isPlainFile, show Path.join "/" "a.rs" = "/a.rs" by decide +kernel, plain]
    have third : fs.isPlainFile (Path.join "/" "b.rs") = true := by
      rw [FileSystem.isPlainFile, show Path.join "/" "b.rs" = "/b.rs" by decide +kernel, binary]
    have named : readPatterns fs {} "/" ["./a.rs", "a.rs", "b.rs"] = .ok (["a.rs", "a.rs", "b.rs"], []) := by
      have seen : Path.relativeTo (Path.join "/" "./a.rs") "/" = "a.rs" ∧
          Path.relativeTo (Path.join "/" "a.rs") "/" = "a.rs" ∧
          Path.relativeTo (Path.join "/" "b.rs") "/" = "b.rs" := by decide +kernel
      simp only [readPatterns, first, second, third, if_true, seen]
      rfl
    have sorted : ["a.rs", "a.rs", "b.rs"].mergeSort Path.le = ["a.rs", "a.rs", "b.rs"] :=
      List.mergeSort_of_pairwise (by decide +kernel)
    rw [discover, named]
    show Except.ok (dropRepeated ((["a.rs", "a.rs", "b.rs"] ++ []).mergeSort Path.le)) = _
    rw [List.append_nil, sorted]
    decide +kernel
  have read : readSources fs "/" ["a.rs", "b.rs"] = .ok ([file], [.notText "b.rs"]) := by
    have text : fs.readText (Path.join "/" "a.rs") = .ok "fn a" := by
      rw [FileSystem.readText, FileSystem.readBytes, show Path.join "/" "a.rs" = "/a.rs" by decide +kernel, plain]
      decide +kernel
    have bytes : fs.readText (Path.join "/" "b.rs") = .error .invalidText := by
      rw [FileSystem.readText, FileSystem.readBytes, show Path.join "/" "b.rs" = "/b.rs" by decide +kernel, binary]
      decide +kernel
    rw [readSources_cons text, readSources_cons bytes]
    decide +kernel
  obtain ⟨reads, _, accepted⟩ := sources_of_discovered found read
  exact ⟨found, read, reads, (accepted []).1⟩

end Discovery

end PolicyLint
