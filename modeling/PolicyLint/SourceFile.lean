import PolicyLint.Digest.Key

/-!
# Source files

A source file is a path with a content. The files of a project together make one synthetic file, in
which each content stands under a header with its path.
-/

namespace PolicyLint

structure SourceFile where
  path : String
  content : String
  deriving DecidableEq, Repr

namespace SourceFile

def fingerprint (f : SourceFile) : String := PolicyLint.fingerprint f.content

def projectPath : String := "."

/-- A file in the content of the project: its header, its content closed by a line feed, and an empty
line. -/
def excerpt (f : SourceFile) : List Char :=
  let content := f.content.toList
  "// file: ".toList ++ f.path.toList ++ ['\n'] ++ content ++
    (if content.getLast? = some '\n' then [] else ['\n']) ++ ['\n']

def project (files : List SourceFile) : SourceFile :=
  { path := projectPath, content := String.ofList (files.flatMap excerpt) }

def isProject (f : SourceFile) : Bool := f.path = projectPath

end SourceFile

end PolicyLint
