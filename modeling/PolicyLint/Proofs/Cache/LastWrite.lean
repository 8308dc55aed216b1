import PolicyLint.Proofs.Cache.Operation

/-!
# The last write wins

A manager answers for a key with the entry that the last act to affect the key left there: `get_after`.
Entries that belong to other keys, as a saved file can have them, are never answered with.
-/

namespace PolicyLint.Act

variable {a : Act} {s : Manager × CacheDir} {acts : List Act} {k : Key} {e : Entry}

/-- An act files an entry under a key, or reads it from the saved file. -/
def Leaves (a : Act) (s : Manager × CacheDir) (k : Key) (e : Entry) : Prop :=
  match a.operation with
  | .set k' v => s.1.enabled = true ∧ k = k' ∧ e = { key := k, verdict := v, created := a.now }
  | .load =>
    s.1.enabled = true ∧ (∃ es, s.2.saved = some (.entries es) ∧ es.get? k = some e) ∧ s.1.Keeps a.now e
  | _ => False

/-- An act replaces or drops what is filed under a key, if that is the entry. -/
def Affects (a : Act) (s : Manager × CacheDir) (k : Key) (e : Entry) : Prop :=
  match a.operation with
  | .set k' _ => s.1.enabled = true ∧ k = k'
  | .remove k' => k = k'
  | .clear => True
  | .prune => ¬ s.1.Keeps a.now e
  | .load => s.1.enabled = true ∧ ∃ es, s.2.saved = some (.entries es)
  | .flush => s.1.enabled = true ∧ ¬ s.1.Keeps a.now e
  | .get _ | .disable | .enable => False

def Untouched (s : Manager × CacheDir) (acts : List Act) (k : Key) (e : Entry) : Prop :=
  ∀ past a later, acts = past ++ a :: later → ¬ a.Affects (after s past) k e

/-- The last act to affect a key leaves an entry under it. -/
def LastLeft (s : Manager × CacheDir) (acts : List Act) (k : Key) (e : Entry) : Prop :=
  ∃ past a later, acts = past ++ a :: later ∧ a.Affects (after s past) k e ∧ a.Leaves (after s past) k e ∧
    Untouched (after s (past ++ [a])) later k e

theorem affects_of_leaves (leaves : a.Leaves s k e) : a.Affects s k e := by
  obtain ⟨operation, now, refusal⟩ := a
  cases operation with
  | set k' v => exact ⟨leaves.1, leaves.2.1⟩
  | load =>
    obtain ⟨works, ⟨es, saved, _⟩, _⟩ := leaves
    exact ⟨works, es, saved⟩
  | _ => exact leaves.elim

theorem get?_perform_iff :
    (a.perform s).2.1.entries.get? k = some e ↔
      a.Leaves s k e ∨ s.1.entries.get? k = some e ∧ ¬ a.Affects s k e := by
  obtain ⟨operation, now, refusal⟩ := a
  cases operation with
  | get k' => simp [perform, Leaves, Affects]
  | set k' v =>
    cases works : s.1.enabled with
    | false => simp [perform, Manager.set, Leaves, Affects, works]
    | true =>
      simp only [perform, Manager.set, Leaves, Affects, works, if_true, true_and]
      rw [Entries.get?_insert_iff, and_comm (b := ¬ k = k')]
      refine or_congr_left (and_congr_right ?_)
      rintro rfl
      exact Iff.rfl
  | remove k' =>
    simp only [perform, Manager.remove, Leaves, Affects, Entries.get?_erase_iff, false_or]
    exact and_comm
  | clear => simp [perform, Manager.clear, Leaves, Affects, Entries.get?]
  | prune => simp [perform, Leaves, Affects, Manager.get?_prune_iff]
  | load =>
    rcases perform_load (a := ⟨.load, now, refusal⟩) (s := s) rfl with
      ⟨idle, ends⟩ | ⟨works, es, saved, ends⟩ | ⟨_, fault, failed, ends⟩
    · have nothing : s.1.enabled = true → s.2.saved = none := fun works => idle.resolve_left (by simp [works])
      rw [ends]
      simp +contextual [Leaves, Affects, nothing]
    · rw [ends, Manager.get?_prune_iff]
      simp [Leaves, Affects, works, saved, Manager.Keeps]
    · have unread : ∀ es, s.2.saved ≠ some (.entries es) := by
        intro es saved
        simp [CacheDir.read, saved] at failed
      rw [ends]
      simp [Leaves, Affects, unread]
  | flush =>
    cases works : s.1.enabled with
    | false => simp [perform, Manager.flush, Leaves, Affects, works]
    | true =>
      rw [(entries_flush (a := ⟨.flush, now, refusal⟩) rfl works).2, Manager.get?_prune_iff]
      simp [Leaves, Affects, works]
  | disable => simp [perform, Manager.disable, Leaves, Affects]
  | enable => simp [perform, Manager.enable, Leaves, Affects]

theorem untouched_nil (s : Manager × CacheDir) (k : Key) (e : Entry) : Untouched s [] k e := by
  intro past a later cut
  simp at cut

theorem untouched_cons_iff :
    Untouched s (a :: acts) k e ↔ ¬ a.Affects s k e ∧ Untouched (a.perform s).2 acts k e := by
  constructor
  · intro untouched
    refine ⟨untouched [] a acts rfl, ?_⟩
    rintro past b later rfl
    exact untouched (a :: past) b later rfl
  · rintro ⟨first, rest⟩ past b later cut
    rcases List.cons_eq_append_iff.mp cut with ⟨rfl, begins⟩ | ⟨past, rfl, remains⟩
    · obtain ⟨rfl, rfl⟩ := List.cons.inj begins
      exact first
    · exact rest past b later remains

theorem not_lastLeft_nil (s : Manager × CacheDir) (k : Key) (e : Entry) : ¬ LastLeft s [] k e := by
  rintro ⟨past, a, later, cut, _⟩
  simp at cut

theorem lastLeft_cons_iff :
    LastLeft s (a :: acts) k e ↔
      LastLeft (a.perform s).2 acts k e ∨ a.Leaves s k e ∧ Untouched (a.perform s).2 acts k e := by
  constructor
  · rintro ⟨past, b, later, cut, affects, leaves, untouched⟩
    rcases List.cons_eq_append_iff.mp cut with ⟨rfl, begins⟩ | ⟨past, rfl, remains⟩
    · obtain ⟨rfl, rfl⟩ := List.cons.inj begins
      exact Or.inr ⟨leaves, untouched⟩
    · exact Or.inl ⟨past, b, later, remains, affects, leaves, untouched⟩
  · rintro (⟨past, b, later, rfl, affects, leaves, untouched⟩ | ⟨leaves, untouched⟩)
    · exact ⟨a :: past, b, later, rfl, affects, leaves, untouched⟩
    · exact ⟨[], a, acts, rfl, affects_of_leaves leaves, leaves, untouched⟩

theorem get?_after_iff :
    (after s acts).1.entries.get? k = some e ↔
      LastLeft s acts k e ∨ s.1.entries.get? k = some e ∧ Untouched s acts k e := by
  induction acts generalizing s with
  | nil => simp [after, not_lastLeft_nil, untouched_nil]
  | cons a rest ih =>
    have begins : after s (a :: rest) = after (a.perform s).2 rest := rfl
    rw [begins, ih, get?_perform_iff, lastLeft_cons_iff, untouched_cons_iff, or_and_right, and_assoc, or_assoc]

/-- A manager that started without entries answers for a key with the entry that the last act to affect the key
left there, if that entry belongs to the key. An entry set while it is disabled is not kept. -/
theorem get_after (age : Option Nat) (d : CacheDir) (acts : List Act) :
    (∀ k e, (after ({ maxAge := age }, d) acts).1.get k = some e ↔
      (after ({ maxAge := age }, d) acts).1.enabled = true ∧ e.key = k ∧ LastLeft ({ maxAge := age }, d) acts k e) ∧
    ∀ a k v, a.operation = .set k v → (after ({ maxAge := age }, d) acts).1.enabled = false →
      (after ({ maxAge := age }, d) (acts ++ [a])).1 = (after ({ maxAge := age }, d) acts).1 ∧
        (after ({ maxAge := age }, d) (acts ++ [a])).2.files = (after ({ maxAge := age }, d) acts).2.files := by
  constructor
  · intro k e
    have entered : (after ({ maxAge := age }, d) acts).1.entries.get? k = some e ↔
        LastLeft ({ maxAge := age }, d) acts k e := by
      rw [get?_after_iff]
      simp [Entries.get?]
    rw [Manager.get]
    split
    · rename_i works
      rw [Option.filter_eq_some_iff, entered]
      simp [works, and_comm]
    · rename_i off
      simp [off]
  · intro a k v asked off
    have same := perform_of_disabled (a := a) off (by simp [asked])
    rw [after_concat, same]
    exact ⟨by simp [discard, asked], rfl⟩

theorem get_after_of_reloaded :
    let own : Entry := ⟨⟨"a"⟩, {}, 1⟩
    let saved : Entries := ⟨[(⟨"a"⟩, own), (⟨"b"⟩, own)], by decide⟩
    let d : CacheDir := { saved := some (.entries saved) }
    let past : List Act := [⟨.set ⟨"a"⟩ {}, 2, none⟩]
    let later : List Act := [⟨.disable, 4, none⟩, ⟨.set ⟨"a"⟩ {}, 5, none⟩, ⟨.enable, 6, none⟩]
    let s := after ({ maxAge := some 9 }, d) (past ++ ⟨.load, 3, none⟩ :: later)
    s.1.get ⟨"a"⟩ = some own ∧ s.1.entries.get? ⟨"b"⟩ = some own ∧ s.1.get ⟨"b"⟩ = none := by
  intro own saved d past later s
  have keeps : (after ({ maxAge := some 9 }, d) past).1.Keeps 3 own := by
    intro age limit
    have nine : 9 = age := Option.some.inj limit
    subst nine
    decide
  have off : (after ({ maxAge := some 9 }, d) (past ++ [⟨.load, 3, none⟩, ⟨.disable, 4, none⟩])).1.enabled = false := by
    decide
  have untouched : Untouched (after ({ maxAge := some 9 }, d) (past ++ [⟨.load, 3, none⟩])) later ⟨"a"⟩ own := by
    simp only [later, untouched_cons_iff]
    refine ⟨id, fun affects => absurd (off.symm.trans affects.1) (by simp), id, untouched_nil _ _ _⟩
  have left : LastLeft ({ maxAge := some 9 }, d) (past ++ ⟨.load, 3, none⟩ :: later) ⟨"a"⟩ own :=
    ⟨past, _, later, rfl, ⟨rfl, saved, rfl⟩, ⟨rfl, ⟨saved, rfl, by decide⟩, keeps⟩, untouched⟩
  exact ⟨((get_after (some 9) d _).1 _ own).mpr ⟨by decide, rfl, left⟩, by decide, by decide⟩

end PolicyLint.Act
