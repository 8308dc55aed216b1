import PolicyLint.Cache.Directory
import PolicyLint.Files.Change

/-!
# Where verdicts are stored

The directory of stored verdicts lies among other files, which can stand in the way of reading and
writing. `CacheDir.ofFiles` says what is found there, and `CacheDir.filesAfterWrite` what a write leaves
behind.
-/

namespace PolicyLint.CacheDir

def filePath (path : String) : String := Path.join path fileName

def temporaryPath (path : String) : String := Path.join path temporaryName

/-- The step at which a write into a directory would fail, and why. -/
def refusalIn (fs : FileSystem) (path : String) : Option (WriteStep × FileFault) :=
  match fs.makeDirectories path with
  | (_, .error fault) => some (.makeDirectory, fault)
  | (fs, .ok ()) =>
    match fs.resolve (temporaryPath path) with
    | .ok (.directory _) => some (.writeTemporary, .isDirectory)
    | .ok _ | .error .notFound =>
      if fs.hasDirectory (filePath path) then some (.rename, .isDirectory) else none
    | .error fault => some (.writeTemporary, fault)

/-- The directory at a path. The saved file holds entries only if they were kept in it. -/
def ofFiles (fs : FileSystem) (path : String) (kept : Option Entries := none) : CacheDir where
  made := fs.hasDirectory path
  saved :=
    if fs.hasPath (filePath path) then
      match fs.readBytes (filePath path), kept with
      | .ok _, some es => some (.entries es)
      | .ok _, none => some .garbage
      | .error fault, _ => some (.unreadable fault)
    else none
  temporary := fs.hasPath (temporaryPath path)
  refusal := refusalIn fs path

def filesAfterWrite (fs : FileSystem) (path : String) : FileSystem :=
  let prepared := (fs.makeDirectories path).1
  match refusalIn fs path with
  | none => (prepared.remove (temporaryPath path)).writeFile (filePath path) .empty
  | some (.rename, _) => prepared.writeFile (temporaryPath path) .empty
  | some _ => prepared

def kept? (d : CacheDir) : Option Entries :=
  match d.saved with
  | some (.entries es) => some es
  | _ => none

end PolicyLint.CacheDir
