import PolicyLint.Rule.Basic
import PolicyLint.Model
import PolicyLint.SourceFile
import PolicyLint.Text.Lines

/-!
# Prompts

What the judge is asked about one rule and one file. The user text ends with a numbered listing of the
file between two fences.
-/

namespace PolicyLint

structure Prompt where
  system : String
  user : String
  deriving DecidableEq, Repr

namespace Prompt

def instructions : String :=
  "You are an expert code reviewer. You check source code against exactly one lint rule and report every violation of that rule and nothing else.\n\nRespond with a single JSON object and no other text:\n\x7b\"violations\": [\x7b\"line\": <first line>, \"end_line\": <last line>, \"message\": \"<why the code violates the rule>\", \"code\": \"<offending code>\", \"confidence\": \"low\" | \"medium\" | \"high\"\x7d]\x7d\n\nLine numbers refer to the numbered listing of the source file. Respond with \x7b\"violations\": []\x7d when the file follows the rule."

def ruleHeading : String := "# Rule: "

def fileHeading : String := "## Source file: "

/-- The line that opens and closes the listing. -/
def fence : List Char := ['`', '`', '`', '\n']

/-- A line number, aligned to the right in four columns. -/
def lineNumber (n : Nat) : List Char :=
  let digits := Nat.toDigits 10 n
  List.replicate (4 - digits.length) ' ' ++ digits

def numbered (n : Nat) (line : List Char) : List Char :=
  lineNumber n ++ ['|', ' '] ++ line ++ ['\n']

def listingFrom (n : Nat) : List (List Char) → List Char
  | [] => []
  | line :: rest => numbered n line ++ listingFrom (n + 1) rest

def listing (content : List Char) : List Char :=
  fence ++ listingFrom 1 (Text.lines content) ++ fence

def exampleText (e : Rule.Example) : List Char :=
  "\n```".toList ++ (e.language.getD "").toList ++ ['\n'] ++ Text.trimRight e.code.toList ++
    "\n```\n".toList

def examplesText (heading : String) (examples : List Rule.Example) : List Char :=
  if examples.isEmpty then []
  else "\n## ".toList ++ heading.toList ++ ['\n'] ++ examples.flatMap exampleText

/-- The user text up to the path of the file. -/
def ruleText (rule : Rule) : List Char :=
  ruleHeading.toList ++ rule.name.toList ++ ['\n'] ++
    (match rule.title with
      | some title => '\n' :: title.toList ++ ['\n']
      | none => []) ++
    '\n' :: Text.trim rule.description.toList ++ ['\n'] ++
    examplesText "Correct examples" rule.correct ++
    examplesText "Incorrect examples" rule.incorrect ++
    '\n' :: fileHeading.toList

def userText (file : SourceFile) (rule : Rule) : List Char :=
  ruleText rule ++ file.path.toList ++ ['\n', '\n'] ++ listing file.content.toList

def render (file : SourceFile) (rule : Rule) (model : Model) : Prompt where
  system := instructions ++ "\n\n(prompt v" ++ model.promptVersion ++ ")"
  user := String.ofList (userText file rule)

end Prompt

end PolicyLint
