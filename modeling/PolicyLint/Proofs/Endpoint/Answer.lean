import PolicyLint.Endpoint.Basic
import PolicyLint.Proofs.Json.Meaning
import PolicyLint.Proofs.Json.Members

/-!
# Answers of a service

The body of an answer is read however it is written. A choice has no content if its message leaves it out or has null
for it, and tokens that are not told count as none.
-/

namespace PolicyLint

open Json (Carries WrittenAs)

/-- What the body of an answer says: the content of each choice, and the tokens of the prompt and the completion. -/
structure Answer where
  contents : List (Option String)
  usage : Option (Nat × Nat)

namespace Answer

/-- The members tell the number under the name. What they do not name is none. -/
def Tells (members : List (String × Json)) (name : String) (n : Nat) : Prop :=
  (name, .nat n) ∈ members ∨ n = 0 ∧ ∀ j, (name, j) ∉ members

def Choice (content : Option String) (item : Json) : Prop :=
  ∃ choice message, item = .object choice ∧ (choice.map (·.1)).Nodup ∧ ("message", .object message) ∈ choice ∧
    (message.map (·.1)).Nodup ∧ Carries message "content" (content.map .string)

def Usage (members : List (String × Json)) : Option (Nat × Nat) → Prop
  | none => Carries members "usage" none
  | some (prompt, completion) =>
    ∃ usage, ("usage", .object usage) ∈ members ∧ (usage.map (·.1)).Nodup ∧ Tells usage "prompt_tokens" prompt ∧
      Tells usage "completion_tokens" completion

structure EncodedBy (a : Answer) (members : List (String × Json)) : Prop where
  distinct : (members.map (·.1)).Nodup
  choices : (∃ items, ("choices", .array items) ∈ members ∧ List.Forall₂ Choice a.contents items) ∨
    a.contents = [] ∧ ∀ j, ("choices", j) ∉ members
  usage : Usage members a.usage

def Small (a : Answer) : Prop :=
  ∀ usage ∈ a.usage, usage.1 ≤ Json.greatestWord ∧ usage.2 ≤ Json.greatestWord

variable {members : List (String × Json)}

end Answer

end PolicyLint
