import PolicyLint.Proofs.Run.Course
import PolicyLint.Proofs.Run.History

/-!
# What a run leaves behind

The calls that are made and the verdicts that are filed from some world on belong to jobs. `Recorded` and
`Stands` say what they make of each job; `record_upkeep` says that starts and steps keep to that, and so
does every run.
-/

namespace PolicyLint

def Call.forKey (key : Key) (calls : List Call) : List Call := calls.filter fun call => call.key = key

def filedUnder (key : Key) (filed : List (Key × Verdict)) : List (Key × Verdict) :=
  filed.filter fun p => p.1 = key

theorem Call.forKey_append (key : Key) (a b : List Call) : forKey key (a ++ b) = forKey key a ++ forKey key b :=
  List.filter_append a b

theorem Call.forKey_eq_self {key : Key} {calls : List Call} (same : ∀ call ∈ calls, call.key = key) :
    forKey key calls = calls :=
  List.filter_eq_self.mpr fun call member => decide_eq_true (same call member)

theorem Call.forKey_eq_nil {key : Key} {calls : List Call} (different : ∀ call ∈ calls, call.key ≠ key) :
    forKey key calls = [] :=
  List.filter_eq_nil_iff.mpr fun call member same => different call member (of_decide_eq_true same)

theorem Call.mem_forKey {key : Key} {calls : List Call} {call : Call} :
    call ∈ forKey key calls ↔ call ∈ calls ∧ call.key = key := by
  rw [forKey, List.mem_filter, decide_eq_true_iff]

theorem filedUnder_append (key : Key) (a b : List (Key × Verdict)) :
    filedUnder key (a ++ b) = filedUnder key a ++ filedUnder key b := List.filter_append a b

theorem filedUnder_eq_self {key : Key} {filed : List (Key × Verdict)} (same : ∀ p ∈ filed, p.1 = key) :
    filedUnder key filed = filed :=
  List.filter_eq_self.mpr fun p member => decide_eq_true (same p member)

theorem filedUnder_eq_nil {key : Key} {filed : List (Key × Verdict)} (different : ∀ p ∈ filed, p.1 ≠ key) :
    filedUnder key filed = [] :=
  List.filter_eq_nil_iff.mpr fun p member same => different p member (of_decide_eq_true same)

theorem mem_filedUnder {key : Key} {filed : List (Key × Verdict)} {p : Key × Verdict} :
    p ∈ filedUnder key filed ↔ p ∈ filed ∧ p.1 = key := by
  rw [filedUnder, List.mem_filter, decide_eq_true_iff]

namespace World

variable {σ τ : Type}

def callsSince (w base : World σ τ) : List Call := w.calls.drop base.calls.length

def filedSince (w base : World σ τ) : List (Key × Verdict) := w.filed.drop base.filed.length

theorem callsSince_self (w : World σ τ) : w.callsSince w = [] := List.drop_length

theorem filedSince_self (w : World σ τ) : w.filedSince w = [] := List.drop_length

end World

theorem Store.sets_append {τ : Type} (s : Store τ) (a b : List (Key × Verdict)) (t : τ) :
    s.sets (a ++ b) t = s.sets b (s.sets a t) := List.foldl_append

namespace Engine

variable {σ τ : Type}

/-- The times at which a run is stopped by a world, however many calls have started, or by a call. -/
structure Stops (e : Engine σ τ) (stopped : Nat → Prop) (base : World σ τ) : Prop where
  begun : ∀ t n, base.isOver t n = true → stopped t
  called : ∀ (job : Job) (call : Call), e.Asks job call.start call → call.aborts = true →
    ∀ t, call.stop ≤ t → stopped t

/-- A world that has come out of an earlier one by starts and steps of known jobs. -/
structure Recorded (e : Engine σ τ) (stopped : Nat → Prop) (known : Job → Prop) (base : World σ τ) (time : Nat)
    (w : World σ τ) : Prop where
  calls : w.calls = base.calls ++ w.callsSince base
  filed : w.filed = base.filed ++ w.filedSince base
  store : w.store = e.store.sets (w.filedSince base) base.store
  stop : ∀ t n, time ≤ t → w.isOver t n = true → stopped t
  asks : ∀ call ∈ w.callsSince base, ∃ job, known job ∧ e.Asks job call.start call
  sources : ∀ p ∈ w.filedSince base, ∃ job, known job ∧ job.key = p.1

/-- The calls and the filed verdicts that have the key of a job make for a stage of it. A job that does not
wait is known. -/
def Stands (e : Engine σ τ) (stopped : Nat → Prop) (known : Job → Prop) (base : World σ τ) (job : Job)
    (stage : Stage) (w : World σ τ) : Prop :=
  match stage with
  | .waiting => Call.forKey job.key (w.callsSince base) = [] ∧ filedUnder job.key (w.filedSince base) = []
  | .queued =>
    known job ∧ Call.forKey job.key (w.callsSince base) = [] ∧ filedUnder job.key (w.filedSince base) = []
  | .reached p =>
    known job ∧ e.After stopped job (Call.forKey job.key (w.callsSince base)) p ∧
      filedUnder job.key (w.filedSince base) = filedFor job p

variable {e : Engine σ τ} {stopped : Nat → Prop} {known : Job → Prop} {base : World σ τ}

theorem Recorded.refl (stops : e.Stops stopped base) : e.Recorded stopped known base 0 base where
  calls := by rw [World.callsSince_self, List.append_nil]
  filed := by rw [World.filedSince_self, List.append_nil]
  store := by rw [World.filedSince_self]; rfl
  stop t n _ := stops.begun t n
  asks call member := by rw [World.callsSince_self] at member; exact absurd member (by simp)
  sources p member := by rw [World.filedSince_self] at member; exact absurd member (by simp)

theorem key_of_mem_filedFor {job : Job} {p : Progress} {entry : Key × Verdict} (member : entry ∈ filedFor job p) :
    entry.1 = job.key := by
  cases p with
  | inl c => exact absurd member (by simp [filedFor])
  | inr v =>
    unfold filedFor at member
    dsimp only at member
    split at member
    · rw [List.mem_singleton.mp member]
    · exact absurd member (by simp)

theorem asks_at_start {job : Job} {time : Nat} {call : Call} (asks : e.Asks job time call) :
    e.Asks job call.start call := by
  rw [asks.1]
  exact asks

/-! ### Starts and steps keep the record -/

section Following

variable {time : Nat} {job : Job} {w w' : World σ τ} {made : List Call} {stored : List (Key × Verdict)}

theorem callsSince_append (grown : w.calls = base.calls ++ w.callsSince base) (calls : w'.calls = w.calls ++ made) :
    w'.callsSince base = w.callsSince base ++ made := by
  unfold World.callsSince
  rw [calls, List.drop_append_of_le_length]
  rw [grown, List.length_append]
  exact Nat.le_add_right _ _

theorem filedSince_follows (grown : w.filed = base.filed ++ w.filedSince base) (follows : e.Follows w w' made stored) :
    w'.filedSince base = w.filedSince base ++ stored := by
  unfold World.filedSince
  rw [follows.filed, List.drop_append_of_le_length]
  rw [grown, List.length_append]
  exact Nat.le_add_right _ _

theorem Recorded.follow (recorded : e.Recorded stopped known base time w) (known' : known job)
    (follows : e.Follows w w' made stored) (asked : ∀ call ∈ made, e.Asks job time call)
    (own : ∀ p ∈ stored, p.1 = job.key) (stop : ∀ t n, time ≤ t → w'.isOver t n = true → stopped t) :
    e.Recorded stopped known base time w' := by
  have calls := callsSince_append recorded.calls follows.calls
  have filed := filedSince_follows recorded.filed follows
  refine ⟨?_, ?_, ?_, stop, ?_, ?_⟩
  · rw [calls, follows.calls, recorded.calls, List.append_assoc]
  · rw [filed, follows.filed, recorded.filed, List.append_assoc]
  · rw [filed, follows.store, recorded.store, Store.sets_append]
  · intro call member
    rw [calls] at member
    rcases List.mem_append.mp member with old | new
    · exact recorded.asks call old
    · exact ⟨job, known', asks_at_start (asked call new)⟩
  · intro p member
    rw [filed] at member
    rcases List.mem_append.mp member with old | new
    · exact recorded.sources p old
    · exact ⟨job, known', (own p new).symm⟩

theorem forKey_follows (grown : w.calls = base.calls ++ w.callsSince base) (follows : e.Follows w w' made stored)
    (asked : ∀ call ∈ made, e.Asks job time call) :
    Call.forKey job.key (w'.callsSince base) = Call.forKey job.key (w.callsSince base) ++ made := by
  have same : ∀ call ∈ made, call.key = job.key := fun call member => (asked call member).2.1
  rw [callsSince_append grown follows.calls, Call.forKey_append, Call.forKey_eq_self same]

theorem forKey_follows_other (grown : w.calls = base.calls ++ w.callsSince base) (follows : e.Follows w w' made stored)
    (asked : ∀ call ∈ made, e.Asks job time call) {key : Key} (different : job.key ≠ key) :
    Call.forKey key (w'.callsSince base) = Call.forKey key (w.callsSince base) := by
  have others : ∀ call ∈ made, call.key ≠ key := by
    intro call member
    rw [(asked call member).2.1]
    exact different
  rw [callsSince_append grown follows.calls, Call.forKey_append, Call.forKey_eq_nil others, List.append_nil]

theorem stands_of_follows (recorded : e.Recorded stopped known base time w) (follows : e.Follows w w' made stored)
    (asked : ∀ call ∈ made, e.Asks job time call) (own : ∀ p ∈ stored, p.1 = job.key) {job' : Job}
    {p : Stage} (different : job.key ≠ job'.key) (stands : e.Stands stopped known base job' p w) :
    e.Stands stopped known base job' p w' := by
  have strangers : ∀ p ∈ stored, p.1 ≠ job'.key := by
    intro p member
    rw [own p member]
    exact different
  have calls := forKey_follows_other recorded.calls follows asked different
  have filed : filedUnder job'.key (w'.filedSince base) = filedUnder job'.key (w.filedSince base) := by
    rw [filedSince_follows recorded.filed follows, filedUnder_append, filedUnder_eq_nil strangers,
      List.append_nil]
  unfold Stands at stands ⊢
  rw [calls, filed]
  exact stands

theorem filedUnder_follows (recorded : e.Recorded stopped known base time w) (follows : e.Follows w w' made stored)
    (own : ∀ p ∈ stored, p.1 = job.key) :
    filedUnder job.key (w'.filedSince base) = filedUnder job.key (w.filedSince base) ++ stored := by
  rw [filedSince_follows recorded.filed follows, filedUnder_append, filedUnder_eq_self own]

end Following

theorem isOver_of_follows {w w' : World σ τ} {made : List Call} {stored : List (Key × Verdict)} {ends : Bool}
    (follows : e.Follows w w' made stored) (aborted : w'.aborted = (w.aborted || ends)) {t n : Nat}
    (stop : w'.isOver t n = true) : w.isOver t n = true ∨ ends = true := by
  rw [World.isOver, aborted, follows.abortAt] at stop
  rw [World.isOver]
  cases ends with
  | true => exact Or.inr rfl
  | false =>
    rw [Bool.or_false] at stop
    exact Or.inl stop

theorem stopped_of_aborts (stops : e.Stops stopped base) {job : Job} {calls : List Call} {c : Check}
    (after : e.After stopped job calls (.inl c)) (aborts : c.aborts = true) {t : Nat} (late : c.due ≤ t) :
    stopped t := by
  cases after with
  | resting _ _ phase _ _ =>
    rw [Check.aborts, phase] at aborts
    exact absurd aborts (by simp)
  | @calling calls call c passed asks same phase due cost left =>
    rw [Check.aborts, phase] at aborts
    rw [due] at late
    exact stops.called job call asks aborts t late

/-- Every start and every step adds to the record of its own job and of no other. -/
theorem record_upkeep (stops : e.Stops stopped base) :
    e.Upkeep (· ≠ ·) (e.Recorded stopped known base) (e.Stands stopped known base) where
  symm := Ne.symm
  ofNe := id
  later recorded late :=
    { recorded with stop := fun t n after => recorded.stop t n (Nat.le_trans late after) }
  start := by
    intro time job w recorded stands
    obtain ⟨known', noCalls, noFiled⟩ := stands
    obtain ⟨made, follows, after, aborted, asked⟩ := after_start e job (recorded.stop time _ (Nat.le_refl time))
    have calls := fun call member => (asked call member).1
    have own : ∀ p ∈ filedFor job (e.start time job w).1, p.1 = job.key := fun p member => key_of_mem_filedFor member
    refine ⟨recorded.follow known' follows calls own ?_, ⟨known', ?_, ?_⟩, ?_⟩
    · intro t n late stop
      rw [World.isOver, aborted, follows.abortAt] at stop
      exact recorded.stop t n late stop
    · rw [forKey_follows recorded.calls follows calls, noCalls, List.nil_append]
      exact after
    · rw [filedUnder_follows recorded follows own, noFiled, List.nil_append]
    · intro job' p different before
      exact stands_of_follows recorded follows calls own different before
  step := by
    intro c w recorded stands
    obtain ⟨known', sofar, noFiled⟩ := stands
    obtain ⟨made, follows, after, aborted, asked⟩ := after_step e sofar (recorded.stop c.due _ (Nat.le_refl c.due))
    have calls := fun call member => (asked call member).1
    have own : ∀ p ∈ filedFor c.job (e.step c.due c w).1, p.1 = c.job.key := fun p member => key_of_mem_filedFor member
    refine ⟨recorded.follow known' follows calls own ?_, ⟨known', ?_, ?_⟩, ?_⟩
    · intro t n late stop
      rcases isOver_of_follows follows aborted stop with before | ends
      · exact recorded.stop t n late before
      · exact stopped_of_aborts stops sofar ends late
    · rw [forKey_follows recorded.calls follows calls]
      exact after
    · rw [filedUnder_follows recorded follows own, noFiled]
      rfl
    · intro job' p different before
      exact stands_of_follows recorded follows calls own different before

end Engine

end PolicyLint
