import PolicyLint.Rule.Name
import PolicyLint.Text.Blank
import PolicyLint.Digest.Key
import PolicyLint.Json.Decoder
import PolicyLint.Json.Printer

/-!
# Rules

A rule is a policy in plain words, applied to each file or once to the whole project. Its fingerprint
covers everything that reaches the judge.
-/

namespace PolicyLint

inductive Rule.Scope where
  | file
  | project
  deriving DecidableEq, Repr, Inhabited

structure Rule.Example where
  code : String
  language : Option String := none
  deriving DecidableEq, Repr

structure Rule where
  name : String
  title : Option String := none
  description : String := ""
  scope : Rule.Scope := .file
  correct : List Rule.Example := []
  incorrect : List Rule.Example := []
  deriving DecidableEq, Repr

namespace Rule

namespace Scope

def name : Scope → String
  | file => "file"
  | project => "project"

def named : List (String × Scope) := [("file", file), ("project", project)]

end Scope

namespace Example

open Json in
def toJson (e : Example) : Json :=
  .objectOf [field "code" (.string e.code), field? "language" (e.language.map .string)]

open Json in
def record : Record [String, Option String] where
  title := "RuleExample"
  fields := .cons (.required "code" .string) <| .cons (.optional "language" .string) .nil

def decoder : Json.Decoder Example :=
  record.decoder fun (code, language, ()) =>
  { code, language }

end Example

def examplesField (name : String) (examples : List Example) : Option (String × Json) :=
  if examples.isEmpty then none else some (name, .array (examples.map Example.toJson))

open Json in
def toJson (r : Rule) : Json :=
  .objectOf
    [field "name" (.string r.name),
      field? "title" (r.title.map .string),
      field "description" (.string r.description),
      field "scope" (.string r.scope.name),
      examplesField "correct_examples" r.correct,
      examplesField "incorrect_examples" r.incorrect]

open Json in
def record : Record [String, Option String, String, Scope, List Example, List Example] where
  title := "Rule"
  fields :=
    .cons (.required "name" .string) <| .cons (.optional "title" .string) <|
    .cons (.withDefault "description" .string "") <|
    .cons (.withDefault "scope" (.variants Scope.named) .file) <|
    .cons (.withDefault "correct_examples" (.list Example.decoder) []) <|
    .cons (.withDefault "incorrect_examples" (.list Example.decoder) []) .nil

def decoder : Json.Decoder Rule :=
  record.decoder fun (name, title, description, scope, correct, incorrect, ()) =>
    { name, title, description, scope, correct, incorrect }

/-- The text whose digest is the fingerprint. -/
def canonical (r : Rule) : String := r.toJson.render

def fingerprint (r : Rule) : String := PolicyLint.fingerprint r.canonical

/-- There is something to ask about. -/
def hasDescription (r : Rule) : Bool := !Text.isBlankText r.description

end Rule

end PolicyLint
