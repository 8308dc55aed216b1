import PolicyLint.Proofs.Review.Requests
import PolicyLint.Proofs.Run.Earned

/-!
# Sessions

A reviewer over a manager is asked for one thing after another. If the manager starts without entries, it
never has one that was not earned: `entries_earned` says so of every moment of every turn.
-/

namespace PolicyLint

inductive Inquiry where
  | review (files : List SourceFile) (rules : List Rule)
  | single (file : SourceFile) (rule : Rule)
  | preview (files : List SourceFile) (rules : List Rule)
  | evaluation (plan : EvaluationPlan) (rules : List Rule) (fixturesOf : String → Fixtures)

structure Turn where
  inquiry : Inquiry
  now : Nat
  aborted : Bool := false
  abortAt : Option Interrupt := none

variable {σ : Type}

namespace Turn

def reviewer (t : Turn) (r : Reviewer σ (Manager × CacheDir)) : Reviewer σ (Manager × CacheDir) :=
  { r with engine := { r.engine with store := .ofManager t.now } }

def opening (t : Turn) (w : World σ (Manager × CacheDir)) : World σ (Manager × CacheDir) :=
  { w with aborted := t.aborted, abortAt := t.abortAt }

def finish (t : Turn) (r : Reviewer σ (Manager × CacheDir)) (w : World σ (Manager × CacheDir)) :
    World σ (Manager × CacheDir) :=
  match t.inquiry with
  | .review files rules => ((t.reviewer r).review files rules (t.opening w)).2
  | .single file rule => ((t.reviewer r).reviewOne file rule (t.opening w)).2
  | .preview files rules => ((t.reviewer r).preview files rules (t.opening w)).2
  | .evaluation plan rules fixturesOf => ((t.reviewer r).evaluate plan rules fixturesOf (t.opening w)).2

theorem finish_leads (t : Turn) (r : Reviewer σ (Manager × CacheDir)) (w : World σ (Manager × CacheDir)) :
    ∃ limit time, (t.reviewer r).engine.Leads limit ⟨0, 0, t.opening w⟩ ⟨time, 0, t.finish r w⟩ := by
  unfold finish
  cases t.inquiry with
  | review files rules => exact ⟨_, (t.reviewer r).review_leads files rules (t.opening w)⟩
  | single file rule => exact ⟨_, (t.reviewer r).reviewOne_leads file rule (t.opening w)⟩
  | preview files rules => exact ⟨0, 0, Reviewer.preview_leads files rules (t.opening w)⟩
  | evaluation plan rules fixturesOf => exact ⟨_, (t.reviewer r).evaluate_leads plan rules fixturesOf (t.opening w)⟩

end Turn

namespace Reviewer

/-- The world after some turns. -/
def after (r : Reviewer σ (Manager × CacheDir)) (w : World σ (Manager × CacheDir)) (turns : List Turn) :
    World σ (Manager × CacheDir) :=
  turns.foldl (fun w t => t.finish r w) w

variable {r : Reviewer σ (Manager × CacheDir)} {base w : World σ (Manager × CacheDir)} {turns : List Turn}

theorem after_take_succ {i : Nat} {t : Turn} (here : turns[i]? = some t) :
    r.after w (turns.take (i + 1)) = t.finish r (r.after w (turns.take i)) := by
  rw [after, List.take_add_one, here, List.foldl_append]
  rfl

/-- All entries of the manager are earned by calls since an earlier world. -/
def Honest (r : Reviewer σ (Manager × CacheDir)) (base w : World σ (Manager × CacheDir)) : Prop :=
  w.calls = base.calls ++ w.callsSince base ∧
    ∀ p ∈ w.store.1.entries.toList, Earned r.engine.judge (w.callsSince base) p.1 p.2

theorem Honest.moments (honest : r.Honest base w) (t : Turn) {limit : Nat} {m : Moment σ (Manager × CacheDir)}
    (leads : (t.reviewer r).engine.Leads limit ⟨0, 0, t.opening w⟩ m) : r.Honest base m.world := by
  have begun : (t.reviewer r).engine.Sound base ⟨0, 0, t.opening w⟩ :=
    ⟨honest.1, fun c member => absurd member (Multiset.notMem_zero c), honest.2⟩
  have sound := leads.keeps (P := (t.reviewer r).engine.Sound base) (Engine.Event.sound rfl) begun
  exact ⟨sound.calls, sound.entries⟩

theorem Honest.after (honest : r.Honest base w) (turns : List Turn) : r.Honest base (r.after w turns) := by
  induction turns generalizing w with
  | nil => exact honest
  | cons t rest ih =>
    obtain ⟨limit, time, leads⟩ := t.finish_leads r w
    exact ih (honest.moments t leads)

/-- Whatever a reviewer is asked for, one thing after another, if its manager starts without entries then
at every moment each of its entries is a verdict of one check that was put to the judge and did not fail. -/
theorem entries_earned (r : Reviewer σ (Manager × CacheDir)) {w : World σ (Manager × CacheDir)}
    (empty : w.store.1.entries = {}) (turns : List Turn) :
    (∀ p ∈ (r.after w turns).store.1.entries.toList,
        Earned r.engine.judge ((r.after w turns).callsSince w) p.1 p.2) ∧
      ∀ (i : Nat) (t : Turn), turns[i]? = some t → ∃ limit time,
        (t.reviewer r).engine.Leads limit ⟨0, 0, t.opening (r.after w (turns.take i))⟩
            ⟨time, 0, r.after w (turns.take (i + 1))⟩ ∧
          ∀ m, (t.reviewer r).engine.Leads limit ⟨0, 0, t.opening (r.after w (turns.take i))⟩ m →
            ∀ p ∈ m.world.store.1.entries.toList, Earned r.engine.judge (m.world.callsSince w) p.1 p.2 := by
  have begun : r.Honest w w := by
    refine ⟨?_, ?_⟩
    · rw [World.callsSince_self, List.append_nil]
    · rw [empty]
      simp
  refine ⟨(begun.after turns).2, ?_⟩
  intro i t here
  obtain ⟨limit, time, leads⟩ := t.finish_leads r (r.after w (turns.take i))
  rw [after_take_succ here]
  exact ⟨limit, time, leads, fun m sofar => ((begun.after (turns.take i)).moments t sofar).2⟩

theorem entries_earned_of_review :
    let rule : Rule := { name := "no-let", description := "Use const." }
    let completion : Completion := { text := "\x7b\"violations\": []\x7d" }
    let r : Reviewer Unit (Manager × CacheDir) :=
      { engine := { judge := .constant { outcome := .ok completion }, store := .ofManager 0, retry := {} } }
    let w : World Unit (Manager × CacheDir) := { judge := (), store := ({}, {}) }
    let turns : List Turn :=
      [{ inquiry := .preview [⟨"a.ts", "let a;"⟩] [rule], now := 0 },
        { inquiry := .review [⟨"a.ts", "let a;"⟩] [rule], now := 60 }]
    (r.after w turns).store.1.entries.toList.length = 1 ∧
      ∀ p ∈ (r.after w turns).store.1.entries.toList,
        Earned r.engine.judge ((r.after w turns).callsSince w) p.1 p.2 := by
  intro rule completion r w turns
  exact ⟨by decide +kernel, (entries_earned r rfl turns).1⟩

end Reviewer

end PolicyLint
