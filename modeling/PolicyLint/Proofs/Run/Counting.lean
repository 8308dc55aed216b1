import Mathlib.Data.Nat.Find
import PolicyLint.Proofs.Run.Interview

/-!
# Judges that keep count

A judge may answer by the key of a task and by how often it was asked for that key. Only one task of a run is put to
the judge for a key, so its check hears the answers to the key from the first one on, whatever is asked in between.
What the check comes to, its time apart, is then read off these answers, and for another task with the key it is the
same, retargeted.
-/

namespace PolicyLint

def Judge.asked {σ : Type} (judge : Judge σ) (s : σ) (tasks : List Task) : σ :=
  tasks.foldl (fun s t => (judge.ask s t.prompt t.model).2) s

/-- In whatever order it is asked about the tasks, and however often, a judge answers each of them by its key and by
how often it was asked for the key before. -/
def Judge.Counts {σ : Type} (judge : Judge σ) (script : Key → Nat → Response) (tasks : List Task) (s : σ) : Prop :=
  ∀ (before : List Task) (t : Task), (∀ u ∈ before, u ∈ tasks) → t ∈ tasks →
    (judge.ask (judge.asked s before) t.prompt t.model).1 = script t.key (before.countP fun u => u.key = t.key)

/-- What the calls of a judge bring, the first one at place zero. -/
abbrev Outcomes := Nat → Except JudgeFault Completion

namespace Verdict

def untimed (v : Verdict) : Verdict := { v with latency := 0 }

def cost (v : Verdict) : Verdict := { v with findings := [], failures := [], latency := 0 }

theorem sharedWith_untimed (v : Verdict) (t : Task) : v.untimed.sharedWith t = v.sharedWith t := rfl

theorem sharedWith_retarget (v : Verdict) (path rule : String) (t : Task) :
    (v.retarget path rule).sharedWith t = v.sharedWith t := by
  by_cases judged : v.failures = []
  · have judged' : (v.retarget path rule).failures = [] := List.map_eq_nil_iff.mpr judged
    rw [sharedWith_of_no_failures judged, sharedWith_of_no_failures judged']
    simp [servedTo, asHit, retarget, Function.comp_def]
  · have failed : (v.retarget path rule).failures ≠ [] := fun none => judged (List.map_eq_nil_iff.mp none)
    rw [sharedWith_of_failures judged, sharedWith_of_failures failed]
    simp [retarget, Function.comp_def]

theorem cost_sharedWith (v : Verdict) (t t' : Task) : (v.sharedWith t).cost = (v.sharedWith t').cost := by
  by_cases judged : v.failures = []
  · rw [sharedWith_of_no_failures judged, sharedWith_of_no_failures judged]
    rfl
  · rw [sharedWith_of_failures judged, sharedWith_of_failures judged]
    rfl

end Verdict

def Conclusion.goesOn : Conclusion → Bool
  | .again _ _ => true
  | .judged _ | .failed _ _ => false

namespace Engine

variable {σ τ : Type} {e : Engine σ τ}

/-! ### What is heard -/

def brings (e : Engine σ τ) (script : Key → Nat → Response) (k : Key) : Outcomes := fun n => (e.settle 0 (script k n)).2.2

def Hears (outcomes : Outcomes) (calls : List Call) : Prop :=
  calls.map Call.outcome = (List.range calls.length).map outcomes

theorem Hears.append {outcomes : Outcomes} {calls : List Call} {call : Call} (hears : Hears outcomes calls)
    (next : call.outcome = outcomes calls.length) : Hears outcomes (calls ++ [call]) := by
  rw [Hears, List.map_append, hears, List.length_append, List.length_singleton, List.range_succ, List.map_append,
    List.map_singleton, List.map_singleton, next]

theorem Hears.getElem {outcomes : Outcomes} {calls : List Call} (hears : Hears outcomes calls) {i : Nat}
    (inside : i < calls.length) : calls[i].outcome = outcomes i := by
  have same := congrArg (fun l => l[i]?) hears
  simpa [inside] using same

/-- Calls get the first of some answers, in order. -/
def Gets (e : Engine σ τ) (answers : Nat → Response) (calls : List Call) : Prop :=
  ∀ (i : Nat) (call : Call), calls[i]? = some call →
    e.settle call.start (answers i) = (call.stop, call.aborts, call.outcome)

theorem Gets.append {answers : Nat → Response} {calls : List Call} {call : Call} (gets : e.Gets answers calls)
    (next : e.settle call.start (answers calls.length) = (call.stop, call.aborts, call.outcome)) :
    e.Gets answers (calls ++ [call]) := by
  intro i call' there
  rcases Nat.lt_trichotomy i calls.length with before | rfl | behind
  · rw [List.getElem?_append_left before] at there
    exact gets i call' there
  · rw [List.getElem?_concat_length] at there
    obtain rfl := Option.some.inj there
    exact next
  · rw [List.getElem?_eq_none (by rw [List.length_append, List.length_singleton]; exact behind)] at there
    cases there

theorem Gets.hears {answers : Nat → Response} {calls : List Call} (gets : e.Gets answers calls) :
    Hears (fun n => (e.settle 0 (answers n)).2.2) calls := by
  refine List.ext_getElem (by simp) fun i inside _ => ?_
  rw [List.length_map] at inside
  have settled := congrArg (fun x => x.2.2) (gets i _ (List.getElem?_eq_getElem inside))
  dsimp only at settled
  rw [List.getElem_map, List.getElem_map, List.getElem_range, ← settled, settle_outcome]

def promptTokensOf : Except JudgeFault Completion → UInt64
  | .ok completion => completion.promptTokens
  | .error _ => 0

def completionTokensOf : Except JudgeFault Completion → UInt64
  | .ok completion => completion.completionTokens
  | .error _ => 0

/-- What it costs to hear outcomes up to a last one. -/
def costHeard (outcomes : Outcomes) (last : Nat) : Verdict where
  checks := 1
  misses := 1
  calls := last + 1
  retries := last
  promptTokens := total promptTokensOf ((List.range (last + 1)).map outcomes)
  completionTokens := total completionTokensOf ((List.range (last + 1)).map outcomes)

theorem Hears.cost {outcomes : Outcomes} {calls : List Call} {call : Call} (hears : Hears outcomes (calls ++ [call])) :
    Check.costOf (calls ++ [call]) calls.length = costHeard outcomes calls.length := by
  have prompt : total Call.promptTokens (calls ++ [call]) = total promptTokensOf ((calls ++ [call]).map Call.outcome) :=
    (total_map promptTokensOf Call.outcome _).symm
  have completion : total Call.completionTokens (calls ++ [call]) =
      total completionTokensOf ((calls ++ [call]).map Call.outcome) := (total_map completionTokensOf Call.outcome _).symm
  rw [Hears] at hears
  rw [Check.costOf, prompt, completion, hears, List.length_append, List.length_singleton]
  rfl

def meaning (e : Engine σ τ) (t : Task) (outcomes : Outcomes) (i : Nat) : Conclusion :=
  Conclusion.ofOutcome t (i + 1) (e.retry.attempts - (i + 1)) (outcomes i)

theorem exists_last (e : Engine σ τ) (t : Task) (outcomes : Outcomes) :
    ∃ i, (e.meaning t outcomes i).goesOn = false := by
  refine ⟨e.retry.attempts, ?_⟩
  cases concluded : e.meaning t outcomes e.retry.attempts with
  | judged findings => rfl
  | failed kind why => rfl
  | again why left =>
    have used := left_of_again concluded
    omega

def lastPlace (e : Engine σ τ) (t : Task) (outcomes : Outcomes) : Nat := Nat.find (e.exists_last t outcomes)

/-- What a check comes to that hears outcomes, its time apart. -/
def hearing (e : Engine σ τ) (t : Task) (outcomes : Outcomes) : Verdict :=
  match e.meaning t outcomes (e.lastPlace t outcomes) with
  | .judged findings => { costHeard outcomes (e.lastPlace t outcomes) with findings }
  | .failed kind why =>
    { costHeard outcomes (e.lastPlace t outcomes) with failures := [failureOf t.job kind why] }
  | .again _ _ => costHeard outcomes (e.lastPlace t outcomes)

/-! ### Checks come to what they hear -/

theorem Passed.goesOn {job : Job} {started due : Nat} {calls : List Call} (passed : e.Passed job started calls due)
    {outcomes : Outcomes} (hears : ∀ (i : Nat) (inside : i < calls.length), calls[i].outcome = outcomes i) :
    ∀ i < calls.length, (e.meaning job.task outcomes i).goesOn = true := by
  induction passed with
  | none => exact fun i inside => absurd inside (Nat.not_lt_zero i)
  | @more calls call why left before asks again ih =>
    intro i inside
    rw [List.length_append, List.length_singleton] at inside
    -- The place is one of the calls before, or that of the call by which they grew.
    rcases Nat.lt_succ_iff_lt_or_eq.mp inside with earlier | rfl
    · refine ih (fun j less => ?_) i earlier
      have same := hears j (by rw [List.length_append]; exact Nat.lt_add_right _ less)
      rwa [List.getElem_append_left less] at same
    · have same := hears calls.length (by simp)
      rw [List.getElem_concat_length rfl] at same
      rw [concludes, same] at again
      rw [meaning, again]
      rfl

theorem lastPlace_of_passed {job : Job} {started due : Nat} {calls : List Call} {call : Call} {outcomes : Outcomes}
    (passed : e.Passed job started calls due) (hears : Hears outcomes (calls ++ [call]))
    (ends : (e.concludes job calls.length call).goesOn = false) :
    e.lastPlace job.task outcomes = calls.length ∧
      e.meaning job.task outcomes calls.length = e.concludes job calls.length call := by
  have heard : ∀ (i : Nat) (inside : i < (calls ++ [call]).length), (calls ++ [call])[i].outcome = outcomes i :=
    fun i inside => hears.getElem inside
  have last : e.meaning job.task outcomes calls.length = e.concludes job calls.length call := by
    have same := heard calls.length (by simp)
    rw [List.getElem_concat_length rfl] at same
    rw [meaning, concludes, same]
  have before : ∀ (i : Nat) (inside : i < calls.length), calls[i].outcome = outcomes i := by
    intro i inside
    have same := heard i (by rw [List.length_append]; exact Nat.lt_add_right _ inside)
    rwa [List.getElem_append_left inside] at same
  refine ⟨(Nat.find_eq_iff _).mpr ⟨by rw [last]; exact ends, fun i less => ?_⟩, last⟩
  rw [passed.goesOn before i less]
  exact Bool.true_eq_false.mp

theorem After.hearing {stopped : Nat → Prop} (going : ∀ t, ¬stopped t) {job : Job} {calls : List Call} {v : Verdict}
    (after : e.After stopped job calls (.inr v)) {outcomes : Outcomes} (hears : Hears outcomes calls) :
    v.untimed = e.hearing job.task outcomes := by
  cases after with
  | @judged calls call started findings passed asks concluded =>
    obtain ⟨last, means⟩ := lastPlace_of_passed passed hears (by rw [concluded]; rfl)
    rw [Engine.hearing, last, means, concluded, ← hears.cost]
    rfl
  | @failed calls call started kind why passed asks concluded =>
    obtain ⟨last, means⟩ := lastPlace_of_passed passed hears (by rw [concluded]; rfl)
    rw [Engine.hearing, last, means, concluded, ← hears.cost]
    rfl
  | cancelled passed stop => exact absurd stop (going _)

/-! ### Tasks that hear the same -/

theorem meaning_retarget (e : Engine σ τ) (t t' : Task) (outcomes : Outcomes) (i : Nat) :
    e.meaning t' outcomes i =
      match e.meaning t outcomes i with
      | .judged findings => .judged (findings.map fun f => { f with path := t'.file.path, rule := t'.rule.name })
      | .failed kind why => .failed kind why
      | .again why left => .again why left := ofOutcome_retarget t t' _ _ _

theorem lastPlace_retarget (e : Engine σ τ) (t t' : Task) (outcomes : Outcomes) :
    e.lastPlace t' outcomes = e.lastPlace t outcomes := by
  refine Nat.find_congr' fun {i} => ?_
  rw [e.meaning_retarget t t']
  cases e.meaning t outcomes i with
  | judged findings => rfl
  | failed kind why => rfl
  | again why left => rfl

theorem hearing_retarget (e : Engine σ τ) (t t' : Task) (outcomes : Outcomes) :
    (e.hearing t outcomes).retarget t'.file.path t'.rule.name = e.hearing t' outcomes := by
  rw [hearing, hearing, e.lastPlace_retarget t t', e.meaning_retarget t t']
  cases e.meaning t outcomes (e.lastPlace t outcomes) with
  | judged findings => rfl
  | failed kind why => rfl
  | again why left => rfl

theorem findings_hearing_of_failures {t : Task} {outcomes : Outcomes} (failed : (e.hearing t outcomes).failures ≠ []) :
    (e.hearing t outcomes).findings = [] := by
  unfold hearing at failed ⊢
  split
  · rename_i findings judged
    rw [judged] at failed
    exact absurd rfl failed
  · rfl
  · rfl

theorem saysLike_sharedWith (e : Engine σ τ) (t : Task) (outcomes : Outcomes) :
    SaysLike ((e.hearing t outcomes).sharedWith t) (e.hearing t outcomes) := by
  have findings := congrArg Verdict.findings (e.hearing_retarget t t outcomes)
  have failures := congrArg Verdict.failures (e.hearing_retarget t t outcomes)
  by_cases judged : (e.hearing t outcomes).failures = []
  · rw [Verdict.sharedWith_of_no_failures judged]
    exact ⟨findings, failures⟩
  · rw [Verdict.sharedWith_of_failures judged]
    exact ⟨(findings_hearing_of_failures judged).symm, failures⟩

theorem cost_hearing (e : Engine σ τ) (t t' : Task) (outcomes : Outcomes) :
    (e.hearing t outcomes).cost = (e.hearing t' outcomes).cost := by
  rw [← e.hearing_retarget t t']
  rfl

theorem hearing_sharedWith (e : Engine σ τ) (t t' u : Task) (outcomes : Outcomes) :
    (e.hearing t outcomes).sharedWith u = (e.hearing t' outcomes).sharedWith u := by
  rw [← e.hearing_retarget t t', Verdict.sharedWith_retarget]

/-! ### Runs hear a judge that keeps count -/

section Counting

variable {script : Key → Nat → Response} {tasks : List Task} {w w' : World σ τ}

theorem asked_append (judge : Judge σ) (s : σ) (before : List Task) (t : Task) :
    judge.asked s (before ++ [t]) = (judge.ask (judge.asked s before) t.prompt t.model).2 := List.foldl_append

/-- The calls for a key get the answers of a judge that keeps count, from the first one on. -/
theorem Interview.counted {s s' : σ} {calls : List Call} (interview : e.Interview s calls s')
    (counts : e.judge.Counts script tasks s)
    (about : ∀ call ∈ calls, ∃ t ∈ tasks, call.key = t.key ∧ call.prompt = t.prompt ∧ call.model = t.model) :
    (∃ asked : List Task, (∀ t ∈ asked, t ∈ tasks) ∧ s' = e.judge.asked s asked ∧
      ∀ k, (asked.countP fun t => t.key = k) = (Call.forKey k calls).length) ∧
      ∀ k, e.Gets (script k) (Call.forKey k calls) := by
  induction interview with
  | none => exact ⟨⟨[], by simp, rfl, fun k => rfl⟩, fun k i call there => nomatch there⟩
  | @more calls call s' before settled ih =>
    obtain ⟨⟨asked, listed, state, count⟩, gets⟩ := ih fun call member => about call (List.mem_append_left _ member)
    obtain ⟨t, known, key, prompt, model⟩ := about call (List.mem_append_right _ (List.mem_singleton.mpr rfl))
    have answered : (e.judge.ask s' call.prompt call.model).1 = script call.key (Call.forKey call.key calls).length := by
      rw [prompt, model, state, counts asked t listed known, ← key, count]
    -- The call counts for its own key alone.
    have forKey : ∀ k, Call.forKey k (calls ++ [call]) = Call.forKey k calls ++ if call.key = k then [call] else [] := by
      intro k
      rw [Call.forKey_append]
      congr 1
      split
      · rename_i same
        exact Call.forKey_eq_self fun call' member => by rw [List.mem_singleton.mp member, same]
      · rename_i different
        exact Call.forKey_eq_nil fun call' member => by rw [List.mem_singleton.mp member]; exact different
    refine ⟨⟨asked ++ [t], ?_, ?_, fun k => ?_⟩, fun k => ?_⟩
    · intro u member
      rcases List.mem_append.mp member with old | new
      · exact listed u old
      · rw [List.mem_singleton.mp new]
        exact known
    · rw [asked_append, ← state, prompt, model]
    · rw [List.countP_append, count, forKey, List.length_append, key]
      by_cases same : t.key = k <;> simp [same]
    · rw [forKey]
      split
      · rename_i same
        rw [← same]
        refine (gets call.key).append ?_
        rw [← answered]
        exact settled
      · rw [List.append_nil]
        exact gets k

/-- The calls of a run get, for each key, the answers of the judge to it from the first one on. -/
theorem run_gets (counts : e.judge.Counts script tasks w.judge) {concurrency elapsed : Nat} {verdicts : List Verdict}
    (ended : e.run tasks concurrency w = .ok ((verdicts, elapsed), w')) (positive : 0 < concurrency) (k : Key) :
    e.Gets (script k) (Call.forKey k (w'.callsSince w)) := by
  have interviewed := run_interviewed ended positive
  exact (interviewed.interview.counted counts interviewed.about).2 k

theorem run_hears (counts : e.judge.Counts script tasks w.judge) {concurrency elapsed : Nat} {verdicts : List Verdict}
    (ended : e.run tasks concurrency w = .ok ((verdicts, elapsed), w')) (positive : 0 < concurrency) (k : Key) :
    Hears (e.brings script k) (Call.forKey k (w'.callsSince w)) :=
  (run_gets counts ended positive k).hears

end Counting

end Engine

end PolicyLint
