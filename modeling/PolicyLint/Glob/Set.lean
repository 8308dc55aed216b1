import PolicyLint.Glob.Slots

/-!
# Sets of globs

A path matches a set if it matches one of its globs. The globs whose pieces are needed have to compile:
first those with an extension, group by group, then all others at once.
-/

namespace PolicyLint

/-- Globs that can be used. -/
structure Glob.Set where
  members : List Glob := []
  deriving Inhabited, Repr

namespace Glob.Set

inductive Fault where
  /-- The expression is nested too deep. -/
  | expression (text : String)
  /-- The expression at a place among the general ones is nested too deep. -/
  | place (index : Nat)
  deriving DecidableEq, Repr

def Fault.message : Fault → String
  | expression text => "error parsing glob '" ++ text ++ "': error parsing pattern 0"
  | place index => "error parsing pattern " ++ toString index

/-- The globs with an extension whose pieces are needed, in the order in which they are compiled. -/
def guarded (globs : List Glob) : List Glob :=
  let put (slots : Glob.Slots) (glob : Glob) : Glob.Slots :=
    match glob.shape with
    | .guarded extension => slots.add extension glob
    | _ => slots
  (Glob.Slots.groups (globs.foldl put [])).flatMap (·.globs)

def general (globs : List Glob) : List Glob := globs.filter (·.shape = .general)

def ofList (globs : List Glob) : Except Fault Glob.Set :=
  match (guarded globs).find? (!·.compiles) with
  | some glob => .error (.expression glob.expression)
  | none =>
    match (general globs).findIdx? (!·.compiles) with
    | some i => .error (.place i)
    | none => .ok { members := globs }

def isEmpty (s : Glob.Set) : Bool := s.members.isEmpty

def «matches» (s : Glob.Set) (path : String) : Bool :=
  s.members.any fun glob => glob.matchesAs path glob.shape

end Glob.Set

end PolicyLint
