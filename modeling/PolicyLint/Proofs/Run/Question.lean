import PolicyLint.Proofs.Model.Canonical
import PolicyLint.Proofs.Rule.Canonical
import PolicyLint.Proofs.Run.Keys

/-!
# Questions of tasks

Where digests do not collide, tasks with one key ask one question: their prompts differ at most in the path of
the file, which stands on a line of its own and is not part of the key.
-/

namespace PolicyLint

namespace Prompt

theorem ruleText_heading (rule : Rule) : ∃ front, ruleText rule = front ++ '\n' :: fileHeading.toList :=
  ⟨_, rfl⟩

/-- The path stands on the line of the heading, and the rest of the text says nothing of it. -/
theorem userText_path (content : String) (rule : Rule) : ∃ front back, ∀ path,
    userText ⟨path, content⟩ rule = front ++ '\n' :: fileHeading.toList ++ path.toList ++ '\n' :: back := by
  obtain ⟨front, heading⟩ := ruleText_heading rule
  refine ⟨front, '\n' :: listing content.toList, fun path => ?_⟩
  rw [userText, heading, List.append_assoc _ ['\n', '\n'], List.cons_append, List.singleton_append]

end Prompt

namespace Task

variable {t t' : Task}

theorem question_of_key (collisionless : t.Collisionless t') (same : t.key = t'.key) :
    t.rule = t'.rule ∧ t.file.content = t'.file.content ∧ t.model.model = t'.model.model ∧
      t.model.maxTokens = t'.model.maxTokens ∧ t.model.promptVersion = t'.model.promptVersion ∧
      t.prompt.system = t'.prompt.system ∧ ∃ front back : List Char,
        t.prompt.user.toList = front ++ '\n' :: Prompt.fileHeading.toList ++ t.file.path.toList ++ '\n' :: back ∧
        t'.prompt.user.toList = front ++ '\n' :: Prompt.fileHeading.toList ++ t'.file.path.toList ++ '\n' :: back := by
  obtain ⟨content, rules, models⟩ := texts_of_key collisionless same
  have rule : t.rule = t'.rule := Rule.canonical_inj rules
  obtain ⟨model, _, tokens, version⟩ := Model.canonical_iff.mp models
  have system : t.prompt.system = t'.prompt.system := by
    rw [prompt, prompt, Prompt.render, Prompt.render, version]
  obtain ⟨front, back, user⟩ := Prompt.userText_path t.file.content t.rule
  refine ⟨rule, content, model, tokens, version, system, front, back, ?_, ?_⟩
  · exact String.toList_ofList.trans (user t.file.path)
  · have user' := user t'.file.path
    rw [content, rule] at user'
    exact String.toList_ofList.trans user'

theorem question_of_key_of_renamed :
    let t : Task := ⟨⟨"a.ts", "x"⟩, { name := "r", title := some "\"" }, {}⟩
    let t' : Task := ⟨⟨"b/c.ts", "x"⟩, { name := "r", title := some "\"" }, {}⟩
    t.key = t'.key ∧ t.prompt.system = t'.prompt.system ∧ ∃ front back : List Char,
      t.prompt.user.toList = front ++ '\n' :: Prompt.fileHeading.toList ++ "a.ts".toList ++ '\n' :: back ∧
      t'.prompt.user.toList = front ++ '\n' :: Prompt.fileHeading.toList ++ "b/c.ts".toList ++ '\n' :: back := by
  intro t t'
  have collisionless : t.Collisionless t' := ⟨fun _ => rfl, fun _ => rfl, fun _ => rfl, fun _ => rfl⟩
  have same : t.key = t'.key := rfl
  obtain ⟨_, _, _, _, _, system, user⟩ := question_of_key collisionless same
  exact ⟨same, system, user⟩

end Task

end PolicyLint
