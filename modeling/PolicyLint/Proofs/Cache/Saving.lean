import PolicyLint.Cache.Manager
import PolicyLint.Proofs.Cache.Entries

/-!
# Pruning, loading and saving

What a manager can do with its directory, case by case. Pruning that leaves a manager clean has dropped
nothing, and at one time it drops entries once: `prune_eq_self_of_clean`, `prune_eq_self_of_pruned`.
-/

namespace PolicyLint

namespace CacheDir

/-- What lies in a directory, whatever stands in the way of the next write. -/
def files (d : CacheDir) : CacheDir := { d with refusal := none }

theorem write_cases (d : CacheDir) (es : Entries) :
    (d.refusal = none ∧
      d.write es = (.ok (), { d with made := true, saved := some (.entries es), temporary := false })) ∨
    (d.refusal ≠ none ∧
      ∃ fault made temporary, d.write es = (.error fault, { d with made, temporary })) := by
  obtain ⟨made, saved, temporary, refusal⟩ := d
  cases refusal with
  | none => exact Or.inl ⟨rfl, rfl⟩
  | some refusal =>
    obtain ⟨step, fault⟩ := refusal
    refine Or.inr ⟨by simp, ?_⟩
    cases step with
    | makeDirectory => exact ⟨_, made, temporary, rfl⟩
    | serialize => exact ⟨_, true, temporary, rfl⟩
    | writeTemporary => exact ⟨_, true, true, rfl⟩
    | rename => exact ⟨_, true, true, rfl⟩

end CacheDir

namespace Manager

variable {m : Manager} {d : CacheDir} {now : Nat} {k : Key} {e : Entry}

def Keeps (m : Manager) (now : Nat) (e : Entry) : Prop := ∀ age, m.maxAge = some age → now - e.created ≤ age

/-! ### Pruning -/

theorem prune_shape (m : Manager) (now : Nat) :
    (m.prune now).2.enabled = m.enabled ∧ (m.prune now).2.maxAge = m.maxAge ∧
      (m.dirty = true → (m.prune now).2.dirty = true) := by
  unfold prune
  split
  · exact ⟨rfl, rfl, id⟩
  · exact ⟨rfl, rfl, fun dirty => by simp [dirty]⟩

theorem get?_prune_iff :
    (m.prune now).2.entries.get? k = some e ↔ m.entries.get? k = some e ∧ m.Keeps now e := by
  unfold prune Keeps
  split
  · rename_i forever
    simp [forever]
  · rename_i age limit
    rw [Entries.get?_prune_iff, Entry.isExpired, decide_eq_false_iff_not, Nat.not_lt, limit]
    simp

theorem prune_eq_self_of_clean (clean : (m.prune now).2.dirty = false) : (m.prune now).2 = m := by
  obtain ⟨es, dirty, enabled, maxAge⟩ := m
  cases maxAge with
  | none => rfl
  | some age =>
    rw [prune] at clean ⊢
    simp only [Bool.or_eq_false_iff, decide_eq_false_iff_not, Nat.not_lt, Nat.le_zero] at clean ⊢
    obtain ⟨before, removed⟩ := clean
    have fewer : (es.prune now age).size ≤ es.size := List.length_filter_le _ _
    have same : es.prune now age = es := Entries.prune_eq_self_iff.mpr (by omega)
    simp [same, before]

theorem prune_eq_self_of_pruned (m m' : Manager) (age : m'.maxAge = m.maxAge)
    (pruned : m'.entries = (m.prune now).2.entries) : (m'.prune now).2 = m' := by
  obtain ⟨es, dirty, enabled, maxAge⟩ := m'
  obtain rfl : maxAge = m.maxAge := age
  unfold prune at pruned ⊢
  cases limit : m.maxAge with
  | none => rfl
  | some age =>
    rw [limit] at pruned
    have same : es.prune now age = es := by
      rw [show es = m.entries.prune now age from pruned, Entries.prune_prune]
    simp [same]

/-! ### Loading -/

theorem reload_cases (m : Manager) (d : CacheDir) (now : Nat) :
    ((m.enabled = false ∨ d.saved = none) ∧ m.reload d now = (.ok (), m)) ∨
    (m.enabled = true ∧ ∃ es, d.saved = some (.entries es) ∧
      m.reload d now = (.ok (), ({ m with entries := es, dirty := false }.prune now).2)) ∨
    (m.enabled = true ∧ ∃ fault, d.read = .error fault ∧ m.reload d now = (.error fault, m)) := by
  unfold reload CacheDir.read
  cases works : m.enabled with
  | false => exact Or.inl ⟨Or.inl rfl, rfl⟩
  | true =>
    cases kept : d.saved with
    | none => exact Or.inl ⟨Or.inr rfl, rfl⟩
    | some saved =>
      cases saved with
      | entries es => exact Or.inr (Or.inl ⟨rfl, es, rfl, rfl⟩)
      | garbage => exact Or.inr (Or.inr ⟨rfl, _, rfl, rfl⟩)
      | unreadable fault => exact Or.inr (Or.inr ⟨rfl, _, rfl, rfl⟩)

theorem load_cases (m : Manager) (d : CacheDir) (now : Nat) :
    ((m.enabled = false ∨ d.saved = none) ∧ m.load d now = .ok m) ∨
    (m.enabled = true ∧ ∃ es, d.saved = some (.entries es) ∧
      m.load d now = .ok ({ m with entries := es, dirty := false }.prune now).2) ∨
    (m.enabled = true ∧ ∃ fault, d.read = .error fault ∧ m.load d now = .error fault) := by
  unfold load
  rcases m.reload_cases d now with ⟨idle, loaded⟩ | ⟨works, es, saved, loaded⟩ | ⟨works, fault, failed, loaded⟩
  · exact Or.inl ⟨idle, by rw [loaded]⟩
  · exact Or.inr (Or.inl ⟨works, es, saved, by rw [loaded]⟩)
  · exact Or.inr (Or.inr ⟨works, fault, failed, by rw [loaded]⟩)

/-! ### Saving -/

theorem flush_cases (m : Manager) (d : CacheDir) (now : Nat) :
    (m.enabled = false ∧ m.flush d now = (.ok (), m, d)) ∨
    (m.enabled = true ∧ (m.prune now).2.dirty = false ∧ m.flush d now = (.ok (), m, d)) ∨
    (m.enabled = true ∧ (m.prune now).2.dirty = true ∧ d.refusal = none ∧
      m.flush d now = (.ok (), { (m.prune now).2 with dirty := false },
        { d with made := true, saved := some (.entries (m.prune now).2.entries), temporary := false })) ∨
    (m.enabled = true ∧ (m.prune now).2.dirty = true ∧ d.refusal ≠ none ∧ ∃ fault made temporary,
      m.flush d now = (.error fault, (m.prune now).2, { d with made, temporary })) := by
  unfold flush
  cases works : m.enabled with
  | false => exact Or.inl ⟨rfl, rfl⟩
  | true =>
    generalize pruned : (m.prune now).2 = p
    obtain ⟨es, dirty, enabled, maxAge⟩ := p
    cases dirty with
    | false =>
      have same : m = ⟨es, false, enabled, maxAge⟩ := by
        rw [← pruned, prune_eq_self_of_clean (by rw [pruned])]
      exact Or.inr (Or.inl ⟨rfl, rfl, by rw [same]; rfl⟩)
    | true =>
      refine Or.inr (Or.inr ?_)
      rcases d.write_cases es with ⟨willing, written⟩ | ⟨refused, fault, made, temporary, failed⟩
      · exact Or.inl ⟨rfl, rfl, willing, by simp [written]⟩
      · exact Or.inr ⟨rfl, rfl, refused, fault, made, temporary, by simp [failed]⟩

end Manager

end PolicyLint
