import PolicyLint.Proofs.Cache.Saving

/-!
# Operations on a manager

What can be asked of a manager over its directory, one act after the other. A disabled manager looks
nothing up and writes nothing, but it still removes, clears and prunes: `after_of_disabled`.
-/

namespace PolicyLint

inductive Operation where
  | get (k : Key)
  | set (k : Key) (v : Verdict)
  | remove (k : Key)
  | clear
  | prune
  | load
  | flush
  | disable
  | enable
  deriving DecidableEq

namespace Operation

/-- Takes entries out of a manager and does nothing else. -/
def discards : Operation → Bool
  | remove _ | clear | prune => true
  | _ => false

end Operation

inductive Reply where
  | done
  | found (entry : Option Entry)
  | removed (count : Nat)
  | failed (fault : StoreFault)
  deriving DecidableEq

namespace Reply

def ofOutcome : Except StoreFault Unit → Reply
  | .ok () => done
  | .error fault => failed fault

end Reply

/-- An operation at a time in seconds, and the step at which a write would fail then, and why. -/
structure Act where
  operation : Operation
  now : Nat
  refusal : Option (WriteStep × FileFault) := none

namespace Act

def perform (a : Act) (s : Manager × CacheDir) : Reply × Manager × CacheDir :=
  let m := s.1
  let d := { s.2 with refusal := a.refusal }
  match a.operation with
  | .get k => (.found (m.get k), m, d)
  | .set k v => (.done, m.set k v a.now, d)
  | .remove k => (.done, m.remove k, d)
  | .clear => (.done, m.clear, d)
  | .prune => (.removed (m.prune a.now).1, (m.prune a.now).2, d)
  | .load =>
    let (outcome, m) := m.reload d a.now
    (.ofOutcome outcome, m, d)
  | .flush =>
    let (outcome, m, d) := m.flush d a.now
    (.ofOutcome outcome, m, d)
  | .disable => (.done, m.disable, d)
  | .enable => (.done, m.enable, d)

def after (s : Manager × CacheDir) (acts : List Act) : Manager × CacheDir :=
  acts.foldl (fun s a => (a.perform s).2) s

variable {a : Act} {s : Manager × CacheDir} {acts : List Act}

theorem after_append (s : Manager × CacheDir) (past later : List Act) :
    after s (past ++ later) = after (after s past) later := List.foldl_append

theorem after_concat (s : Manager × CacheDir) (past : List Act) (a : Act) :
    after s (past ++ [a]) = (a.perform (after s past)).2 := after_append s past [a]

/-! ### Single acts -/

theorem perform_load (asked : a.operation = .load) :
    ((s.1.enabled = false ∨ s.2.saved = none) ∧
      a.perform s = (.done, s.1, { s.2 with refusal := a.refusal })) ∨
    (s.1.enabled = true ∧ ∃ es, s.2.saved = some (.entries es) ∧
      a.perform s = (.done, ({ s.1 with entries := es, dirty := false }.prune a.now).2,
        { s.2 with refusal := a.refusal })) ∨
    (s.1.enabled = true ∧ ∃ fault, s.2.read = .error fault ∧
      a.perform s = (.failed fault, s.1, { s.2 with refusal := a.refusal })) := by
  obtain ⟨m, d⟩ := s
  obtain ⟨operation, now, refusal⟩ := a
  obtain rfl : operation = .load := asked
  rcases m.reload_cases { d with refusal } now with ⟨idle, loaded⟩ | ⟨works, es, saved, loaded⟩ | ⟨works, fault, failed, loaded⟩
  · exact Or.inl ⟨idle, by simp only [perform, loaded, Reply.ofOutcome]⟩
  · exact Or.inr (Or.inl ⟨works, es, saved, by simp only [perform, loaded, Reply.ofOutcome]⟩)
  · exact Or.inr (Or.inr ⟨works, fault, failed, by simp only [perform, loaded, Reply.ofOutcome]⟩)

theorem perform_flush (asked : a.operation = .flush) :
    (s.1.enabled = false ∧ a.perform s = (.done, s.1, { s.2 with refusal := a.refusal })) ∨
    (s.1.enabled = true ∧ (s.1.prune a.now).2.dirty = false ∧
      a.perform s = (.done, s.1, { s.2 with refusal := a.refusal })) ∨
    (s.1.enabled = true ∧ (s.1.prune a.now).2.dirty = true ∧ ∃ made temporary,
      a.perform s = (.done, { (s.1.prune a.now).2 with dirty := false },
        ⟨made, some (.entries (s.1.prune a.now).2.entries), temporary, a.refusal⟩)) ∨
    (s.1.enabled = true ∧ (s.1.prune a.now).2.dirty = true ∧ ∃ fault made temporary,
      a.perform s = (.failed fault, (s.1.prune a.now).2, ⟨made, s.2.saved, temporary, a.refusal⟩)) := by
  obtain ⟨m, d⟩ := s
  obtain ⟨operation, now, refusal⟩ := a
  obtain rfl : operation = .flush := asked
  rcases m.flush_cases { d with refusal } now with
    ⟨idle, flushed⟩ | ⟨works, clean, flushed⟩ | ⟨works, dirty, _, flushed⟩ | ⟨works, dirty, _, fault, made, temporary, flushed⟩
  · exact Or.inl ⟨idle, by simp only [perform, flushed, Reply.ofOutcome]⟩
  · exact Or.inr (Or.inl ⟨works, clean, by simp only [perform, flushed, Reply.ofOutcome]⟩)
  · exact Or.inr (Or.inr (Or.inl ⟨works, dirty, _, _, by simp only [perform, flushed, Reply.ofOutcome]; rfl⟩))
  · exact Or.inr (Or.inr (Or.inr ⟨works, dirty, fault, made, temporary, by simp only [perform, flushed, Reply.ofOutcome]⟩))

/-- A flush drops the expired entries and no others, whether it succeeds or not. -/
theorem entries_flush (asked : a.operation = .flush) (works : s.1.enabled = true) :
    (a.perform s).2.1.enabled = true ∧ (a.perform s).2.1.entries = (s.1.prune a.now).2.entries := by
  have on : (s.1.prune a.now).2.enabled = true := (s.1.prune_shape a.now).1.trans works
  rcases (perform_flush (s := s) asked).resolve_left (by simp [works]) with
    ⟨_, clean, ends⟩ | ⟨_, _, _, _, ends⟩ | ⟨_, _, _, _, _, ends⟩
  · rw [ends, Manager.prune_eq_self_of_clean clean]
    exact ⟨works, rfl⟩
  · rw [ends]
    exact ⟨on, rfl⟩
  · rw [ends]
    exact ⟨on, rfl⟩

theorem maxAge_perform (a : Act) (s : Manager × CacheDir) : (a.perform s).2.1.maxAge = s.1.maxAge := by
  obtain ⟨operation, now, refusal⟩ := a
  cases operation with
  | get k => rfl
  | set k v =>
    simp only [perform, Manager.set]
    split <;> rfl
  | remove k => rfl
  | clear => rfl
  | prune => exact (s.1.prune_shape now).2.1
  | load =>
    rcases perform_load (a := ⟨.load, now, refusal⟩) (s := s) rfl with ⟨_, ends⟩ | ⟨_, es, _, ends⟩ | ⟨_, _, _, ends⟩
    · rw [ends]
    · rw [ends]
      exact (Manager.prune_shape { s.1 with entries := es, dirty := false } now).2.1
    · rw [ends]
  | flush =>
    have aged := (s.1.prune_shape now).2.1
    rcases perform_flush (a := ⟨.flush, now, refusal⟩) (s := s) rfl with
      ⟨_, ends⟩ | ⟨_, _, ends⟩ | ⟨_, _, _, _, ends⟩ | ⟨_, _, _, _, _, ends⟩
    · rw [ends]
    · rw [ends]
    · rw [ends]
      exact aged
    · rw [ends]
      exact aged
  | disable => rfl
  | enable => rfl

theorem maxAge_after (s : Manager × CacheDir) (acts : List Act) : (after s acts).1.maxAge = s.1.maxAge := by
  induction acts generalizing s with
  | nil => rfl
  | cons a rest ih => exact (ih _).trans (maxAge_perform a s)

/-! ### Disabled managers -/

def discard (a : Act) (m : Manager) : Manager :=
  match a.operation with
  | .remove k => m.remove k
  | .clear => m.clear
  | .prune => (m.prune a.now).2
  | _ => m

theorem enabled_discard (a : Act) (m : Manager) : (a.discard m).enabled = m.enabled := by
  unfold discard
  split
  · rfl
  · rfl
  · exact (m.prune_shape a.now).1
  · rfl

theorem discard_of_discards_eq_false (keeps : a.operation.discards = false) (m : Manager) : a.discard m = m := by
  obtain ⟨operation, now, refusal⟩ := a
  cases operation with
  | remove | clear | prune => exact absurd keeps (by simp [Operation.discards])
  | _ => rfl

theorem foldl_discard_of_discards_eq_false (keeps : ∀ a ∈ acts, a.operation.discards = false) (m : Manager) :
    acts.foldl (fun m a => a.discard m) m = m := by
  induction acts with
  | nil => rfl
  | cons a rest ih =>
    rw [List.foldl_cons, discard_of_discards_eq_false (keeps a List.mem_cons_self)]
    exact ih fun b member => keeps b (List.mem_cons_of_mem _ member)

theorem perform_of_disabled (off : s.1.enabled = false) (stays : a.operation ≠ .enable) :
    (a.perform s).2 = (a.discard s.1, { s.2 with refusal := a.refusal }) := by
  obtain ⟨operation, now, refusal⟩ := a
  cases operation with
  | get k => rfl
  | set k v => simp [perform, discard, Manager.set, off]
  | remove k => rfl
  | clear => rfl
  | prune => rfl
  | load => simp [perform, discard, Manager.reload, off]
  | flush => simp [perform, discard, Manager.flush, off]
  | disable =>
    obtain ⟨⟨es, dirty, enabled, maxAge⟩, d⟩ := s
    obtain rfl : enabled = false := off
    rfl
  | enable => exact absurd rfl stays

theorem after_eq_of_disabled (off : s.1.enabled = false) (stays : ∀ a ∈ acts, a.operation ≠ .enable) :
    (after s acts).1 = acts.foldl (fun m a => a.discard m) s.1 ∧ (after s acts).1.enabled = false ∧
      (after s acts).2.files = s.2.files := by
  induction acts generalizing s with
  | nil => exact ⟨rfl, off, rfl⟩
  | cons a rest ih =>
    have first := perform_of_disabled off (stays a List.mem_cons_self)
    have stillOff : (a.perform s).2.1.enabled = false := by
      rw [first]
      exact (enabled_discard a s.1).trans off
    obtain ⟨left, offThen, files⟩ := ih stillOff fun b member => stays b (List.mem_cons_of_mem _ member)
    have begins : after s (a :: rest) = after (a.perform s).2 rest := rfl
    refine ⟨?_, offThen, ?_⟩
    · rw [begins, left, first]
      rfl
    · rw [begins, files, first]
      rfl

/-- While a manager stays disabled its lookups miss and its directory is left alone. It is left itself as it
was, apart from what removing, clearing and pruning make of it. -/
theorem after_of_disabled (off : s.1.enabled = false) (stays : ∀ a ∈ acts, a.operation ≠ .enable) :
    (after s acts).1 = acts.foldl (fun m a => a.discard m) s.1 ∧ (after s acts).2.files = s.2.files ∧
      (∀ past a later k, acts = past ++ a :: later → a.operation = .get k →
        (a.perform (after s past)).1 = .found none) ∧
      ((∀ a ∈ acts, a.operation.discards = false) → (after s acts).1 = s.1) := by
  obtain ⟨left, _, files⟩ := after_eq_of_disabled off stays
  refine ⟨left, files, ?_, ?_⟩
  · rintro past a later k rfl asked
    obtain ⟨_, offThen, _⟩ := after_eq_of_disabled off fun b member => stays b (List.mem_append_left _ member)
    simp [perform, asked, Manager.get, offThen]
  · intro keeps
    rw [left, foldl_discard_of_discards_eq_false keeps]

theorem after_of_disabled_of_filed :
    let s : Manager × CacheDir := ((({} : Manager).set ⟨"a"⟩ {} 0).disable, { saved := some (.entries {}) })
    let acts : List Act := [⟨.set ⟨"b"⟩ {}, 1, none⟩, ⟨.get ⟨"a"⟩, 2, none⟩, ⟨.load, 3, none⟩, ⟨.flush, 4, none⟩]
    s.1.enabled = false ∧ (∀ a ∈ acts, a.operation ≠ .enable) ∧ (∀ a ∈ acts, a.operation.discards = false) ∧
      (after s acts).1 = s.1 ∧ (after s acts).2.files = s.2.files := by
  intro s acts
  have off : s.1.enabled = false := rfl
  have stays : ∀ a ∈ acts, a.operation ≠ .enable := by simp [acts]
  have keeps : ∀ a ∈ acts, a.operation.discards = false := by simp [acts, Operation.discards]
  obtain ⟨_, files, _, same⟩ := after_of_disabled off stays
  exact ⟨off, stays, keeps, same keeps, files⟩

/-- Removing an entry is not undone when the manager is enabled again. -/
theorem not_inert_of_disabled :
    ¬ ∀ (s : Manager × CacheDir) (acts : List Act), s.1.enabled = false → (∀ a ∈ acts, a.operation ≠ .enable) →
      (after s acts).1 = s.1 ∧ (after s acts).2.files = s.2.files := by
  intro inert
  let m : Manager := (({} : Manager).set ⟨"a"⟩ {} 0).disable
  obtain ⟨same, _⟩ := inert (m, {}) [⟨.remove ⟨"a"⟩, 1, none⟩] rfl (by simp)
  have sizes : (m.remove ⟨"a"⟩).entries.size = m.entries.size := congrArg (·.entries.size) same
  exact absurd sizes (by decide)

end Act

end PolicyLint
