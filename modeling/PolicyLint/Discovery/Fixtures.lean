import PolicyLint.Discovery.Basic

/-!
# Fixtures

The fixtures of a rule are files labeled by the directory they stand in: `correct` or `incorrect`, below
the directory of the rule.
-/

namespace PolicyLint

structure Fixtures where
  correct : List SourceFile := []
  incorrect : List SourceFile := []
  deriving DecidableEq, Repr, Inhabited

namespace Fixtures

def size (s : Fixtures) : Nat := s.correct.length + s.incorrect.length

def isEmpty (s : Fixtures) : Bool := s.size = 0

/-- The files in a directory that are neither hidden nor links, in ascending order, seen from a base. -/
def filesIn (fs : FileSystem) (base dir : String) : List String :=
  match fs.resolve dir with
  | .ok (.directory entries) =>
    let names := (entries.filter fun e => e.2.isFile && !Path.isHiddenName e.1).map (·.1)
    (names.map fun name => Path.relativeTo (Path.join dir name) base).mergeSort Path.le
  | _ => []

def readIn (fs : FileSystem) (base dir : String) :
    Except Fault (List SourceFile × List Notice) :=
  Discovery.readSources fs base (filesIn fs base dir)

def read (fs : FileSystem) (base rule : String) : Except Fault (Fixtures × List Notice) := do
  let dir := Path.join base rule
  let (correct, notices) ← readIn fs base (Path.join dir "correct")
  let (incorrect, moreNotices) ← readIn fs base (Path.join dir "incorrect")
  return ({ correct, incorrect }, notices ++ moreNotices)

end Fixtures

end PolicyLint
