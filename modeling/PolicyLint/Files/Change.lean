import PolicyLint.Files.Tree

/-!
# Changes of file trees

`FileSystem.makeDirectories` makes a directory and the missing ones above it. When it fails, the
directories made so far stay.
-/

namespace PolicyLint

namespace FileTree

def erase : FileTree → List String → FileTree
  | directory entries, [name] => directory (entries.filter (·.1 != name))
  | directory entries, name :: rest =>
    match entries.lookup name with
    | some below =>
      directory (entries.map fun entry =>
        if entry.1 = name then (name, below.erase rest) else entry)
    | none => directory entries
  | tree, _ => tree

end FileTree

namespace FileSystem

def makeDirectory (fs : FileSystem) (path : String) : Except FileFault FileSystem := do
  checkPath path
  match (Path.parts path).reverse.dropWhile (·.isEmpty) with
  | [] => throw .alreadyExists
  | last :: above =>
    let trail ← fs.follow true maxLinks (fs.start path) above.reverse
    let name := String.ofList last
    if !(trail.tree fs).isDirectory then throw .notDirectory
    if last = ['.'] || last = ['.', '.'] then throw .alreadyExists
    if longestName < name.utf8ByteSize then throw .nameTooLong
    if ((trail.tree fs).child? name).isSome then throw .alreadyExists
    return { fs with root := fs.root.put (trail.names ++ [name]) (.directory []) }

/-- Makes the first one of some directories, each of which lies in the next one, and those of the others
that are missing. -/
def makeFirst (fs : FileSystem) : List String → FileSystem × Except FileFault Unit
  | [] => (fs, .error .notFound)
  | path :: above =>
    let orStands (fs : FileSystem) (fault : FileFault) : FileSystem × Except FileFault Unit :=
      (fs, if fs.hasDirectory path then .ok () else .error fault)
    if path.isEmpty then (fs, .ok ())
    else
      match fs.makeDirectory path with
      | .ok made => (made, .ok ())
      | .error .notFound =>
        match makeFirst fs above with
        | (fs, .error fault) => (fs, .error fault)
        | (fs, .ok ()) =>
          match fs.makeDirectory path with
          | .ok made => (made, .ok ())
          | .error fault => orStands fs fault
      | .error fault => orStands fs fault

def makeDirectories (fs : FileSystem) (path : String) : FileSystem × Except FileFault Unit :=
  fs.makeFirst (Path.ancestors path)

def writeFile (fs : FileSystem) (path : String) (content : ByteArray) : FileSystem :=
  match Path.parent? path with
  | some dir =>
    match fs.locate (if dir.isEmpty then "." else dir), (Path.names path).getLast? with
    | .ok trail, some name => { fs with root := fs.root.put (trail.names ++ [name]) (.file content) }
    | _, _ => fs
  | none => fs

def remove (fs : FileSystem) (path : String) : FileSystem :=
  match fs.locate path false with
  | .ok trail => { fs with root := fs.root.erase trail.names }
  | .error _ => fs

end FileSystem

end PolicyLint
