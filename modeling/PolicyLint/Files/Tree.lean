import PolicyLint.Files.Fault
import PolicyLint.Path

/-!
# File trees

A `FileTree` is a file, a link or a directory of trees, whose names are texts in UTF-8.
`FileSystem.resolve` finds what a path leads to. Links on the way are followed, up to a fixed count of
them. Paths and the names in them cannot be longer than a fixed count of bytes.
-/

namespace PolicyLint

/-- A file, a link or a directory. -/
inductive FileTree where
  | file (content : ByteArray)
  | link (target : String)
  | directory (entries : List (String × FileTree))
  deriving Inhabited

namespace FileTree

def child? : FileTree → String → Option FileTree
  | directory entries, name => entries.lookup name
  | _, _ => none

def isDirectory : FileTree → Bool
  | directory _ => true
  | _ => false

def isFile : FileTree → Bool
  | file _ => true
  | _ => false

/-- The tree with a node put where the names lead to. Directories on the way are made. An empty directory
leaves a directory as it is. -/
def put : (tree : FileTree) → (names : List String) → (node : FileTree) → FileTree
  | directory entries, [], directory [] => directory entries
  | _, [], node => node
  | tree, name :: rest, node =>
    let entries := match tree with
      | directory entries => entries
      | _ => []
    let below := put ((entries.lookup name).getD (directory [])) rest node
    directory (entries.filter (·.1 != name) ++ [(name, below)])

mutual

/-- The regular files of a tree with the names that lead to them. Hidden names are left out, links are
not followed. -/
def visibleFiles : FileTree → List (List String)
  | file _ => [[]]
  | link _ => []
  | directory entries => visibleEntries entries

def visibleEntries : List (String × FileTree) → List (List String)
  | [] => []
  | (name, tree) :: rest =>
    (if Path.isHiddenName name then [] else tree.visibleFiles.map (name :: ·)) ++
      visibleEntries rest

end

end FileTree

/-- A tree and the directory in which relative paths start. -/
structure FileSystem where
  root : FileTree
  /-- The names from the root to the working directory. -/
  cwd : List String := []

namespace FileSystem

/-- The longest name in bytes. -/
def longestName : Nat := 255

/-- The longest path in bytes. -/
def longestPath : Nat := 4095

def maxLinks : Nat := 40

/-- A tree and the ones around it up to the root, each with its name. -/
abbrev Trail := List (String × FileTree)

namespace Trail

def tree (trail : Trail) (fs : FileSystem) : FileTree := (trail.head?.map (·.2)).getD fs.root

def names (trail : Trail) : List String := (trail.map (·.1)).reverse

def ofNames (fs : FileSystem) (names : List String) : Trail :=
  names.foldl (fun trail name => (name, ((trail.tree fs).child? name).getD (.directory [])) :: trail) []

end Trail

/-- Where the remaining parts of a path lead. -/
def follow (fs : FileSystem) (lastToo : Bool) :
    (links : Nat) → (trail : Trail) → (parts : List (List Char)) → Except FileFault Trail
  | _, trail, [] => .ok trail
  | links, trail, part :: parts =>
    let tree := trail.tree fs
    if !tree.isDirectory then .error .notDirectory
    else if part = [] ∨ part = ['.'] then follow fs lastToo links trail parts
    else if part = ['.', '.'] then follow fs lastToo links trail.tail parts
    else
      let name := String.ofList part
      if longestName < name.utf8ByteSize then .error .nameTooLong
      else
        match tree.child? name with
        | none => .error .notFound
        | some (.link target) =>
          if parts.isEmpty && !lastToo then .ok ((name, .link target) :: trail)
          else
            match links with
            | 0 => .error .tooManyLinks
            | left + 1 =>
              follow fs lastToo left (if Path.isAbsolute target then [] else trail)
                (Path.parts target ++ parts)
        | some next => follow fs lastToo links ((name, next) :: trail) parts
  termination_by links _ parts => (links, parts.length)

def checkPath (path : String) : Except FileFault Unit :=
  if path.toList.contains (Char.ofNat 0) then .error .invalidName
  else if longestPath < path.utf8ByteSize then .error .nameTooLong
  else if path.isEmpty then .error .notFound
  else .ok ()

def start (fs : FileSystem) (path : String) : Trail :=
  if Path.isAbsolute path then [] else .ofNames fs fs.cwd

/-- Where a path leads. A link at its end is followed only if `lastToo` is set. -/
def locate (fs : FileSystem) (path : String) (lastToo : Bool := true) : Except FileFault Trail := do
  checkPath path
  fs.follow lastToo maxLinks (fs.start path) (Path.parts path)

def resolve (fs : FileSystem) (path : String) (lastToo : Bool := true) :
    Except FileFault FileTree :=
  (fs.locate path lastToo).map (·.tree fs)

def isFile (fs : FileSystem) (path : String) : Bool :=
  match fs.resolve path with
  | .ok (.file _) => true
  | _ => false

/-- The path names a regular file, not a link to one. -/
def isPlainFile (fs : FileSystem) (path : String) : Bool :=
  match fs.resolve path false with
  | .ok (.file _) => true
  | _ => false

def hasDirectory (fs : FileSystem) (path : String) : Bool :=
  match fs.resolve path with
  | .ok (.directory _) => true
  | _ => false

def hasPath (fs : FileSystem) (path : String) : Bool := (fs.resolve path).isOk

def readBytes (fs : FileSystem) (path : String) : Except FileFault ByteArray := do
  match ← fs.resolve path with
  | .file content => return content
  | _ => throw .isDirectory

def readText (fs : FileSystem) (path : String) : Except FileFault String := do
  match String.fromUTF8? (← fs.readBytes path) with
  | some text => return text
  | none => throw .invalidText

def currentDirectory (fs : FileSystem) : String := "/" ++ String.intercalate "/" fs.cwd

end FileSystem

end PolicyLint
