import PolicyLint.Cache.Entry
import PolicyLint.Cache.Fault

/-!
# The directory of stored verdicts

The entries are saved in one file. A write makes the directory, lays the entries out as bytes, writes a
temporary file and renames it, so that the saved file is replaced as a whole or not at all.
-/

namespace PolicyLint

inductive Saved where
  | entries (entries : Entries)
  | garbage
  | unreadable (fault : FileFault)
  deriving DecidableEq, Repr

inductive WriteStep where
  | makeDirectory
  | serialize
  | writeTemporary
  | rename
  deriving DecidableEq, Repr

structure CacheDir where
  /-- The directory has been made. -/
  made : Bool := false
  saved : Option Saved := none
  /-- A temporary file is left over. -/
  temporary : Bool := false
  /-- The step that fails in the next write, and why. -/
  refusal : Option (WriteStep × FileFault) := none
  deriving DecidableEq, Repr

namespace CacheDir

def fileName : String := "cache.rkyv"

def temporaryName : String := fileName ++ ".tmp"

def read (d : CacheDir) : Except StoreFault (Option Entries) :=
  match d.saved with
  | none => .ok none
  | some (.entries es) => .ok (some es)
  | some .garbage => .error (.corrupted "not a saved cache")
  | some (.unreadable fault) => .error (.file fault)

/-- The directory with entries saved in it. A refused write leaves the saved file as it was. -/
def write (d : CacheDir) (es : Entries) : Except StoreFault Unit × CacheDir :=
  match d.refusal with
  | none => (.ok (), { d with made := true, saved := some (.entries es), temporary := false })
  | some (.makeDirectory, fault) => (.error (.file fault), d)
  | some (.serialize, fault) => (.error (.unwritable fault.message), { d with made := true })
  | some (.writeTemporary, fault) => (.error (.file fault), { d with made := true, temporary := true })
  | some (.rename, fault) => (.error (.file fault), { d with made := true, temporary := true })

end CacheDir

end PolicyLint
