import PolicyLint.Evaluation.Basic
import PolicyLint.Proofs.Config.Document
import PolicyLint.Proofs.Review.Input
import PolicyLint.Proofs.Run.History
import PolicyLint.Proofs.Run.Lookup

/-!
# Refused input

Reviews, previews and evaluations refuse the same faulty rules, and what they refuse leaves no trace but notices.
-/

namespace PolicyLint

/-- The request is refused just when something is wrong with it. The message is about its first offence, and neither
the judge nor the store has been asked for anything. -/
structure Refuses {σ τ α : Type} (idle : Prop) (files : List SourceFile) (rules : List Rule) (w : World σ τ)
    (answer : Except SetupFault α × World σ τ) : Prop where
  exactly : (∃ fault, answer.1 = .error fault) ↔ Faulty idle files rules
  message : ∀ fault, answer.1 = .error fault → Offence idle files rules fault.message
  alike : ∀ fault, answer.1 = .error fault → Engine.Alike w answer.2
  store : ∀ fault, answer.1 = .error fault → answer.2.store = w.store

variable {idle : Prop} {files : List SourceFile} {rules : List Rule}

section Refuses

variable {σ τ α : Type} {w : World σ τ} {answer : Except SetupFault α × World σ τ}

theorem refuses_of_error {fault : SetupFault} (refused : answer.1 = .error fault)
    (offence : Offence idle files rules fault.message) (alike : Engine.Alike w answer.2)
    (store : answer.2.store = w.store) : Refuses idle files rules w answer where
  exactly := ⟨fun _ => offence.faulty, fun _ => ⟨fault, refused⟩⟩
  message := by
    intro fault' refused'
    obtain rfl := Except.error.inj (refused.symm.trans refused')
    exact offence
  alike := fun _ _ => alike
  store := fun _ _ => store

theorem refuses_of_ok {a : α} (accepted : answer.1 = .ok a) (sound : ¬Faulty idle files rules) :
    Refuses idle files rules w answer := by
  have never : ∀ fault, answer.1 ≠ .error fault := by
    intro fault refused
    rw [accepted] at refused
    cases refused
  exact {
    exactly := ⟨fun ⟨fault, refused⟩ => absurd refused (never fault), fun faulty => absurd faulty sound⟩
    message := fun fault refused => absurd refused (never fault)
    alike := fun fault refused => absurd refused (never fault)
    store := fun fault refused => absurd refused (never fault) }

end Refuses

namespace Reviewer

variable {σ τ : Type}

theorem review_refuses (r : Reviewer σ τ) (files : List SourceFile) (rules : List Rule) (w : World σ τ) :
    Refuses (r.concurrency = 0) files rules w (r.review files rules w) := by
  rcases validateInputs_cases (r.concurrency = 0) files rules with
    ⟨valid, some, sound, distinct⟩ | ⟨fault, refused, offence⟩
  · by_cases none : r.concurrency = 0
    · have idle : r.review files rules w = (.error .noConcurrency, w.noteSkipped rules) := by
        rw [review, valid]
        dsimp only
        rw [Engine.run, if_pos none]
      rw [idle]
      exact refuses_of_error rfl (.bound some sound distinct none) ⟨rfl, rfl, rfl, rfl, rfl⟩ rfl
    · have reviewed : ∃ v, (r.review files rules w).1 = .ok v := by
        rw [review, valid]
        dsimp only
        rw [Engine.run, if_neg none]
        exact ⟨_, rfl⟩
      obtain ⟨v, reviewed⟩ := reviewed
      exact refuses_of_ok reviewed (not_faulty some sound distinct none)
  · have same : r.review files rules w = (.error fault, w) := by rw [review, refused]
    rw [same]
    exact refuses_of_error rfl offence (.refl w) rfl

theorem preview_refuses (r : Reviewer σ τ) (files : List SourceFile) (rules : List Rule) (w : World σ τ) :
    Refuses False files rules w (r.preview files rules w) := by
  rcases validateInputs_cases False files rules with ⟨valid, some, sound, distinct⟩ | ⟨fault, refused, offence⟩
  · have planned : ∃ plan, (r.preview files rules w).1 = .ok plan := by
      rw [preview, valid]
      exact ⟨_, rfl⟩
    obtain ⟨plan, planned⟩ := planned
    exact refuses_of_ok planned (not_faulty some sound distinct id)
  · have same : r.preview files rules w = (.error fault, w) := by rw [preview, refused]
    rw [same]
    exact refuses_of_error rfl offence (.refl w) rfl

theorem evaluate_refuses (r : Reviewer σ τ) (plan : EvaluationPlan) (rules : List Rule)
    (fixturesOf : String → Fixtures) (w : World σ τ) :
    Refuses (plan.rulesAtOnce = 0 ∨ plan.filesAtOnce = 0) [] rules w (r.evaluate plan rules fixturesOf w) := by
  rcases validateRules_cases rules with ⟨valid, some, sound⟩ | ⟨fault, refused, offence⟩
  · by_cases none : plan.rulesAtOnce = 0 ∨ plan.filesAtOnce = 0
    · have idle : r.evaluate plan rules fixturesOf w = (.error .noConcurrency, w) := by
        rw [evaluate, valid]
        dsimp only
        rw [if_pos (by simpa using none)]
      rw [idle]
      exact refuses_of_error rfl (.bound some sound List.nodup_nil none) (.refl w) rfl
    · have evaluated : ∃ evaluation, (r.evaluate plan rules fixturesOf w).1 = .ok evaluation := by
        rw [evaluate, valid]
        dsimp only
        rw [if_neg (by simpa using none)]
        exact ⟨_, rfl⟩
      obtain ⟨evaluation, evaluated⟩ := evaluated
      exact refuses_of_ok evaluated (not_faulty some sound List.nodup_nil none)
  · have same : r.evaluate plan rules fixturesOf w = (.error fault, w) := by rw [evaluate, refused]
    rw [same]
    exact refuses_of_error rfl (.rule offence) (.refl w) rfl

/-- Faulty input is refused, and only that: by reviews, by previews, which do not mind the bound, and by evaluations,
which have no files of their own. Nothing but notices comes of it. Accepted settings have no bound of zero. -/
theorem refuses_faulty (r : Reviewer σ τ) (files : List SourceFile) (rules : List Rule) (w : World σ τ) :
    Refuses (r.concurrency = 0) files rules w (r.review files rules w) ∧
      Refuses False files rules w (r.preview files rules w) ∧
      (∀ plan fixturesOf,
        Refuses (plan.rulesAtOnce = 0 ∨ plan.filesAtOnce = 0) [] rules w (r.evaluate plan rules fixturesOf w)) ∧
      ∀ text config, Config.ofText text = .ok config → ∀ (judge : Judge σ) (store : Store τ),
        (Reviewer.ofConfig config judge store).concurrency ≠ 0 := by
  refine ⟨r.review_refuses files rules w, r.preview_refuses files rules w,
    fun plan fixturesOf => r.evaluate_refuses plan rules fixturesOf w, ?_⟩
  intro text config accepted judge store
  obtain ⟨_, _, _, valid⟩ := Config.ofText_ok accepted
  exact Nat.pos_iff_ne_zero.mp (Config.validate_iff.mp valid).files

theorem refuses_faulty_of_twins :
    let rule : Rule := { name := "no-let", description := "Use const." }
    let r : Reviewer Unit Unit :=
      { engine := { judge := .constant { outcome := .ok { text := "" } }, store := .forgetful, retry := {} } }
    let w : World Unit Unit := { judge := (), store := () }
    (∃ fault, (r.review [] [rule, rule] w).1 = .error fault ∧ Offence (r.concurrency = 0) [] [rule, rule] fault.message) ∧
      (r.review [] [rule, rule] w).2.calls = [] ∧ (Reviewer.ofConfig {} r.engine.judge r.engine.store).concurrency ≠ 0 := by
  intro rule r w
  obtain ⟨reviewed, _, _, settings⟩ := refuses_faulty r [] [rule, rule] w
  have faulty : Faulty (r.concurrency = 0) [] [rule, rule] := Or.inr (Or.inr (Or.inl (by decide)))
  obtain ⟨fault, refused⟩ := reviewed.exactly.mpr faulty
  obtain ⟨_, _, _, calls, _⟩ := reviewed.alike fault refused
  have accepted : Config.ofText "" = .ok {} := by decide +kernel
  exact ⟨⟨fault, refused, reviewed.message fault refused⟩, calls, settings "" {} accepted r.engine.judge r.engine.store⟩

end Reviewer

end PolicyLint
