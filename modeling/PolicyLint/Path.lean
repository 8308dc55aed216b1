import PolicyLint.Text.Blank

/-!
# Paths

A path is a text of parts separated by slashes. `steps` is what a path means: empty parts do not
count, nor do single dots but for one at the start of a relative path. Paths are compared by their
steps, while their texts are kept for messages.
-/

namespace PolicyLint

inductive Step where
  | root
  | here
  | up
  | name (text : String)
  deriving DecidableEq, Repr

namespace Step

def rank : Step → Nat
  | root => 0
  | here => 1
  | up => 2
  | name _ => 3

/-- Steps are ordered by kind, names by their characters. -/
def lt : Step → Step → Bool
  | name a, name b => a < b
  | a, b => a.rank < b.rank

def text : Step → String
  | root => "/"
  | here => "."
  | up => ".."
  | name n => n

def ofPart? (part : List Char) : Option Step :=
  if part = [] ∨ part = ['.'] then none
  else if part = ['.', '.'] then some up
  else some (name (String.ofList part))

end Step

/-- The first step in which two lists of steps differ decides; a list comes before its
continuations. -/
def stepsLe : List Step → List Step → Bool
  | [], _ => true
  | _ :: _, [] => false
  | a :: as, b :: bs => if a = b then stepsLe as bs else a.lt b

namespace Path

def partsOf : List Char → List (List Char)
  | [] => [[]]
  | c :: rest =>
    if c = '/' then [] :: partsOf rest
    else
      match partsOf rest with
      | [] => [[c]]
      | part :: parts => (c :: part) :: parts

def parts (path : String) : List (List Char) := partsOf path.toList

def isAbsolute (path : String) : Bool := path.toList.head? = some '/'

def steps (path : String) : List Step :=
  match parts path with
  | [] => []
  | [[]] => []
  | [] :: rest => .root :: rest.filterMap Step.ofPart?
  | first :: rest =>
    (if first = ['.'] then some .here else Step.ofPart? first).toList ++
      rest.filterMap Step.ofPart?

def le (a b : String) : Bool := stepsLe (steps a) (steps b)

def names (path : String) : List String :=
  (steps path).filterMap fun step =>
    match step with
    | .name n => some n
    | _ => none

def join (base path : String) : String :=
  if isAbsolute path || base.isEmpty then path
  else if base.toList.getLast? = some '/' then base ++ path
  else base ++ "/" ++ path

/-- Reversed parts without the ones in front that do not count, of which the last one is kept. -/
def settle : List (List Char) → List (List Char)
  | [] => []
  | [first] => [first]
  | part :: rest => if (Step.ofPart? part).isNone then settle rest else part :: rest

def ofParts (parts : List (List Char)) : String :=
  match parts with
  | [[]] => "/"
  | _ => String.ofList (List.intercalate ['/'] parts)

/-- The parents of reversed parts, the nearest one first. -/
def parentsOf : List (List Char) → List String
  | [] => []
  | [first] => if first = [] then [] else [""]
  | part :: rest =>
    if (Step.ofPart? part).isNone then parentsOf rest
    else ofParts (settle rest).reverse :: parentsOf rest

def ancestors (path : String) : List String := path :: parentsOf (parts path).reverse

def parent? (path : String) : Option String := (parentsOf (parts path).reverse).head?

def behind : List Step → List (List Char) → Option (List (List Char))
  | [], parts => some (parts.dropWhile fun part => (Step.ofPart? part).isNone)
  | _ :: _, [] => none
  | step :: base, part :: parts =>
    match Step.ofPart? part with
    | none => behind (step :: base) parts
    | some s => if s = step then behind base parts else none

/-- The path as seen from a base, unless it does not lie below the base. -/
def relativeTo (path base : String) : String :=
  let rest :=
    match steps base, parts path with
    | [], parts => some parts
    | .root :: base, [] :: parts => behind base parts
    | .here :: base, ['.'] :: parts => behind base parts
    | .root :: _, _ | .here :: _, _ => none
    | base, parts =>
      if parts.head? = some [] || parts.head? = some ['.'] then none else behind base parts
  match rest with
  | some rest => String.ofList (List.intercalate ['/'] (settle rest.reverse).reverse)
  | none => path

def display (path : String) : String := String.intercalate "/" ((steps path).map Step.text)

def isHiddenName (name : String) : Bool := name.toList.head? = some '.'

end Path

end PolicyLint
