import PolicyLint.Discovery.Filter
import PolicyLint.Files.Tree
import PolicyLint.Notice
import PolicyLint.SourceFile

/-!
# Discovery

A pattern names a file, or else it is a glob for the files below a base directory. `discover` returns the
paths found, seen from the base, in ascending order and each of them once. `readSources` reads them.
-/

namespace PolicyLint

namespace Discovery

def readPatterns (fs : FileSystem) (filter : Filter) (base : String) :
    List String → Except SetupFault (List String × List Glob)
  | [] => .ok ([], [])
  | pattern :: rest => do
    let path := Path.join base pattern
    if fs.isPlainFile path then
      let (files, globs) ← readPatterns fs filter base rest
      let relative := Path.relativeTo path base
      return (if filter.ignores relative then files else relative :: files, globs)
    else
      let glob ← (Glob.ofText pattern).mapError (.invalidPattern pattern)
      let (files, globs) ← readPatterns fs filter base rest
      return (files, glob :: globs)

/-- The visible files below a base. A base that is a link has files below it only if it leads to a
directory. Directories whose paths are too long are passed over. -/
def filesBelow (fs : FileSystem) (base : String) : List String :=
  match fs.resolve base false, fs.resolve base with
  | .ok (.link _), .ok (.file _) => []
  | .ok _, .ok tree =>
    let reachable (names : List String) : Bool :=
      names.length ≤ 1 ||
        (FileSystem.checkPath (Path.join base ("/".intercalate names.dropLast))).isOk
    (tree.visibleFiles.filter reachable).map (String.intercalate "/")
  | _, _ => []

/-- The list without the paths that mean the same as the one kept before them. -/
def dropRepeated : List String → List String
  | [] => []
  | path :: rest => path :: go path rest
where
  go (last : String) : List String → List String
    | [] => []
    | path :: rest =>
      if Path.steps path = Path.steps last then go last rest else path :: go path rest

/-- The paths that patterns stand for, seen from a base. -/
def discover (fs : FileSystem) (filter : Filter) (patterns : List String) (base : String) :
    Except SetupFault (List String) := do
  let (named, globs) ← readPatterns fs filter base patterns
  let set ← (Glob.Set.ofList globs).mapError .unusableGlobs
  let found :=
    if set.isEmpty then []
    else (filesBelow fs base).filter fun path => set.matches path && !filter.ignores path
  return dropRepeated ((named ++ found).mergeSort Path.le)

/-- Reads files at paths seen from a base. A file that is no text is passed over with a notice. -/
def readSources (fs : FileSystem) (base : String) :
    List String → Except Fault (List SourceFile × List Notice)
  | [] => .ok ([], [])
  | path :: rest =>
    match fs.readText (Path.join base path) with
    | .ok content => do
      let (files, notices) ← readSources fs base rest
      return ({ path := Path.display path, content } :: files, notices)
    | .error .invalidText => do
      let (files, notices) ← readSources fs base rest
      return (files, .notText path :: notices)
    | .error fault => .error (.unreadable path fault)

end Discovery

end PolicyLint
