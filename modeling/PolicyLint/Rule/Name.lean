/-!
# Rule names

A rule name is an optional at sign, a word, and optionally a slash and a second word. A word is an
ASCII letter followed by ASCII letters, digits, underscores and hyphens.
-/

namespace PolicyLint.Rule

/-- The characters of a word after its first letter. -/
def isWordChar (c : Char) : Bool := c.isAlphanum || c = '_' || c = '-'

def isWord : List Char → Bool
  | [] => false
  | c :: rest => c.isAlpha && rest.all isWordChar

/-- A word, or two words with a slash in between. -/
def isWordPath (cs : List Char) : Bool :=
  match cs.dropWhile (· ≠ '/') with
  | [] => isWord cs
  | _ :: second => isWord (cs.takeWhile (· ≠ '/')) && isWord second

/-- The characters form a rule name. -/
def isNameChars : List Char → Bool
  | '@' :: rest => isWordPath rest
  | cs => isWordPath cs

def isValidName (s : String) : Bool := isNameChars s.toList

end PolicyLint.Rule
