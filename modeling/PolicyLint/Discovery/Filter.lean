import PolicyLint.Fault
import PolicyLint.Glob.Parser

/-!
# Filters

A filter leaves a path out if one of its excluding globs matches, or if it has including globs and none
of them matches.
-/

namespace PolicyLint

structure Filter where
  /-- Only matching paths are kept, unless the set is empty. -/
  included : Glob.Set := {}
  excluded : Glob.Set := {}
  deriving Inhabited, Repr

namespace Filter

def readGlobs : List String → Except SetupFault (List Glob)
  | [] => .ok []
  | text :: rest => do
    let glob ← (Glob.ofText text).mapError (.invalidFilter text)
    return glob :: (← readGlobs rest)

def readSet (texts : List String) : Except SetupFault Glob.Set := do
  (Glob.Set.ofList (← readGlobs texts)).mapError .unusableGlobs

def ofTexts (included excluded : List String) : Except SetupFault Filter := do
  let included ← readSet included
  let excluded ← readSet excluded
  return { included, excluded }

def ignores (f : Filter) (path : String) : Bool :=
  f.excluded.matches path || (!f.included.isEmpty && !f.included.matches path)

end Filter

end PolicyLint
