import PolicyLint.Cache.Store
import PolicyLint.Proofs.Cache.Saving
import PolicyLint.Proofs.Run.Provenance
import PolicyLint.Proofs.Run.Warm
import PolicyLint.Review.Start

/-!
# Managers as stores

A manager that works is a lawful store. What is filed once under a key is there when the manager has
been saved, and what a directory holds is there when it is loaded, unless it is too old.
-/

namespace PolicyLint

def CacheDir.Has (d : CacheDir) (k : Key) (e : Entry) : Prop :=
  ∃ es, d.saved = some (.entries es) ∧ es.get? k = some e

namespace Manager

/-- What a directory holds is there when it has been loaded. -/
theorem get?_start {m : Manager} {d : CacheDir} {now : Nat} {k : Key} {e : Entry} (works : m.enabled = true)
    (has : d.Has k e) (keeps : m.Keeps now e) : (m.start d now).1.entries.get? k = some e := by
  obtain ⟨es, saved, there⟩ := has
  rcases m.load_cases d now with ⟨idle | absent, _⟩ | ⟨_, es', kept, loaded⟩ | ⟨_, fault, failed, _⟩
  · exact absurd (idle.symm.trans works) (by simp)
  · exact absurd (absent.symm.trans saved) (by simp)
  · obtain rfl : es' = es := by simpa [saved] using kept.symm
    rw [start, loaded]
    exact (get?_prune_iff (m := { m with entries := es', dirty := false })).mpr ⟨there, keeps⟩
  · rw [CacheDir.read, saved] at failed
    exact absurd failed (by simp)

theorem start_shape (m : Manager) (d : CacheDir) (now : Nat) :
    (m.start d now).1.enabled = m.enabled ∧ (m.start d now).1.maxAge = m.maxAge := by
  rcases m.load_cases d now with ⟨_, loaded⟩ | ⟨_, es, _, loaded⟩ | ⟨_, fault, _, loaded⟩
  · rw [start, loaded]
    exact ⟨rfl, rfl⟩
  · obtain ⟨enabled, maxAge, _⟩ := prune_shape { m with entries := es, dirty := false } now
    rw [start, loaded]
    exact ⟨enabled, maxAge⟩
  · rw [start, loaded]
    exact ⟨rfl, rfl⟩

/-- A flush that succeeds leaves the directory with the entries of a manager that has something to save,
and as it was otherwise. -/
theorem flush_has {m : Manager} {d : CacheDir} {now : Nat} {k : Key} {e : Entry} (works : m.enabled = true)
    (flushed : (m.flush d now).1 = .ok ()) (has : m.entries.get? k = some e) (keeps : m.Keeps now e)
    (pending : m.dirty = true ∨ d.Has k e) : (m.flush d now).2.2.Has k e := by
  rcases m.flush_cases d now with ⟨idle, _⟩ | ⟨_, clean, ends⟩ | ⟨_, _, _, ends⟩ | ⟨_, _, _, fault, _, _, ends⟩
  · exact absurd (idle.symm.trans works) (by simp)
  · rw [ends]
    rcases pending with dirty | before
    · exact absurd (((prune_shape m now).2.2 dirty).symm.trans clean) (by simp)
    · exact before
  · rw [ends]
    exact ⟨_, rfl, get?_prune_iff.mpr ⟨has, keeps⟩⟩
  · rw [ends] at flushed
    exact absurd flushed (by simp)

/-- The entries of a manager after filing are the one that was filed and some of those before. -/
theorem mem_set {m : Manager} {k : Key} {v : Verdict} {now : Nat} {p : Key × Entry}
    (member : p ∈ (m.set k v now).entries.toList) :
    p = (k, { key := k, verdict := v, created := now }) ∨ p ∈ m.entries.toList := by
  unfold set at member
  split at member
  · rcases List.mem_cons.mp member with new | old
    · exact Or.inl new
    · exact Or.inr (List.mem_filter.mp old).1
  · exact Or.inr member

theorem mem_prune {m : Manager} {now : Nat} {p : Key × Entry} (member : p ∈ (m.prune now).2.entries.toList) :
    p ∈ m.entries.toList := by
  unfold prune at member
  split at member
  · exact member
  · exact (List.mem_filter.mp member).1

/-- A flush adds no entries. -/
theorem mem_flush {m : Manager} {d : CacheDir} {now : Nat} {p : Key × Entry}
    (member : p ∈ (m.flush d now).2.1.entries.toList) : p ∈ m.entries.toList := by
  rcases m.flush_cases d now with ⟨_, ends⟩ | ⟨_, _, ends⟩ | ⟨_, _, _, ends⟩ | ⟨_, _, _, _, _, _, ends⟩
  all_goals rw [ends] at member
  · exact member
  · exact member
  · exact mem_prune member
  · exact mem_prune member

theorem enabled_flush (m : Manager) (d : CacheDir) (now : Nat) : (m.flush d now).2.1.enabled = m.enabled := by
  rcases m.flush_cases d now with ⟨_, ends⟩ | ⟨_, _, ends⟩ | ⟨_, _, _, ends⟩ | ⟨_, _, _, _, _, _, ends⟩
  all_goals rw [ends]
  · exact (m.prune_shape now).1
  · exact (m.prune_shape now).1

theorem flush_of_willing (m : Manager) {d : CacheDir} (now : Nat) (willing : d.refusal = none) :
    (m.flush d now).1 = .ok () ∧ (m.flush d now).2.2.refusal = none := by
  rcases m.flush_cases d now with ⟨_, ends⟩ | ⟨_, _, ends⟩ | ⟨_, _, _, ends⟩ | ⟨_, _, refused, _⟩
  · rw [ends]
    exact ⟨rfl, willing⟩
  · rw [ends]
    exact ⟨rfl, willing⟩
  · rw [ends]
    exact ⟨rfl, willing⟩
  · exact absurd willing refused

end Manager

namespace Store

variable {now : Nat}

/-- The lookups of a manager change nothing, and filing changes the key that is filed under alone. -/
theorem ofManager_lawful (now : Nat) : (ofManager now).Lawful where
  still _ _ := rfl
  other := by
    intro t k k' v different
    obtain ⟨m, d⟩ := t
    show Except.ok ((m.set k' v now).get k) = Except.ok (m.get k)
    unfold Manager.set
    by_cases works : m.enabled = true
    · rw [if_pos works, Manager.get, Manager.get]
      rw [Entries.get?_insert_of_ne m.entries different]
    · rw [if_neg works]

theorem view_ofManager {m : Manager} {d : CacheDir} {k : Key} {e : Entry} (works : m.enabled = true)
    (found : m.entries.get? k = some e) (own : e.key = k) : (ofManager now).view (m, d) k = some e.verdict := by
  have entry : m.get k = some e := by
    rw [Manager.get, if_pos works, found, Option.filter_some, if_pos (decide_eq_true own)]
  show verdictFor k (.ok (m.get k)) = some e.verdict
  rw [entry, verdictFor]
  exact if_pos own

theorem view_set {m : Manager} (works : m.enabled = true) (d : CacheDir) (k : Key) (v : Verdict) (created : Nat) :
    (ofManager now).view (m.set k v created, d) k = some v := by
  have filed := Entries.get?_insert_self m.entries k { key := k, verdict := v, created }
  rw [Manager.set, if_pos works]
  exact view_ofManager (m := { m with entries := m.entries.insert k _, dirty := true }) works filed rfl

theorem view_set_other {m : Manager} {k k' : Key} (different : k' ≠ k) (d : CacheDir) (v : Verdict) :
    (ofManager now).view (m.set k' v now, d) k = (ofManager now).view (m, d) k :=
  congrArg (verdictFor k) ((ofManager_lawful now).other (m, d) v different)

theorem sets_ofManager_cons (p : Key × Verdict) (filed : List (Key × Verdict)) (m : Manager) (d : CacheDir) :
    (ofManager now).sets (p :: filed) (m, d) = (ofManager now).sets filed (m.set p.1 p.2 now, d) := rfl

theorem sets_ofManager_snd (now : Nat) (filed : List (Key × Verdict)) (s : Manager × CacheDir) :
    ((ofManager now).sets filed s).2 = s.2 := by
  induction filed generalizing s with
  | nil => rfl
  | cons p rest ih => exact ih _

theorem sets_ofManager_shape (now : Nat) (filed : List (Key × Verdict)) {m : Manager} (works : m.enabled = true)
    (d : CacheDir) :
    ((ofManager now).sets filed (m, d)).1.enabled = true ∧ ((ofManager now).sets filed (m, d)).1.maxAge = m.maxAge ∧
      ((filed ≠ [] ∨ m.dirty = true) → ((ofManager now).sets filed (m, d)).1.dirty = true) := by
  induction filed generalizing m with
  | nil => exact ⟨works, rfl, fun some => some.elim (absurd rfl) id⟩
  | cons p rest ih =>
    have stored : m.set p.1 p.2 now =
        { m with entries := m.entries.insert p.1 { key := p.1, verdict := p.2, created := now }, dirty := true } := by
      rw [Manager.set, if_pos works]
    obtain ⟨enabled, maxAge, dirty⟩ := ih (m := m.set p.1 p.2 now) (by rw [stored]; exact works)
    rw [sets_ofManager_cons]
    refine ⟨enabled, ?_, fun _ => dirty (Or.inr (by rw [stored]))⟩
    rw [maxAge, stored]

theorem get?_sets_of_absent (filed : List (Key × Verdict)) {m : Manager} (works : m.enabled = true) (d : CacheDir)
    {k : Key} (absent : ∀ p ∈ filed, p.1 ≠ k) :
    ((ofManager now).sets filed (m, d)).1.entries.get? k = m.entries.get? k := by
  induction filed generalizing m with
  | nil => rfl
  | cons p rest ih =>
    have stored : m.set p.1 p.2 now =
        { m with entries := m.entries.insert p.1 { key := p.1, verdict := p.2, created := now }, dirty := true } := by
      rw [Manager.set, if_pos works]
    rw [sets_ofManager_cons, ih (by rw [stored]; exact works) fun q member => absent q (List.mem_cons_of_mem _ member),
      stored]
    exact Entries.get?_insert_of_ne m.entries (absent p List.mem_cons_self) _

/-- What was filed once under a key is what a manager that works has for it. -/
theorem get?_sets_of_once (filed : List (Key × Verdict)) {m : Manager} (works : m.enabled = true) (d : CacheDir)
    {k : Key} {v : Verdict} (once : filedUnder k filed = [(k, v)]) :
    ((ofManager now).sets filed (m, d)).1.entries.get? k = some { key := k, verdict := v, created := now } := by
  induction filed generalizing m with
  | nil => exact absurd once (by simp [filedUnder])
  | cons p rest ih =>
    have stored : m.set p.1 p.2 now =
        { m with entries := m.entries.insert p.1 { key := p.1, verdict := p.2, created := now }, dirty := true } := by
      rw [Manager.set, if_pos works]
    have enabled : (m.set p.1 p.2 now).enabled = true := by rw [stored]; exact works
    rw [sets_ofManager_cons]
    by_cases same : p.1 = k
    · have first : filedUnder k (p :: rest) = p :: filedUnder k rest := List.filter_cons_of_pos (decide_eq_true same)
      rw [first] at once
      obtain ⟨rfl, none⟩ := List.cons.inj once
      have absent : ∀ q ∈ rest, q.1 ≠ k := by
        intro q member own
        have there : q ∈ filedUnder k rest := mem_filedUnder.mpr ⟨member, own⟩
        rw [none] at there
        exact absurd there (by simp)
      rw [get?_sets_of_absent rest enabled d absent, stored]
      exact Entries.get?_insert_self m.entries k _
    · have later : filedUnder k (p :: rest) = filedUnder k rest :=
        List.filter_cons_of_neg (by simpa using same)
      rw [later] at once
      exact ih enabled once

/-! ### Managers are faithful -/

theorem use_ofManager (now : Nat) (s : Manager × CacheDir) (u : StoreUse) :
    ((ofManager now).use s u).1.enabled = s.1.enabled ∧
      ∀ p ∈ ((ofManager now).use s u).1.entries.toList, p ∈ s.1.entries.toList ∨ (p.1, p.2.verdict) ∈ u.filed := by
  cases u with
  | look k => exact ⟨rfl, fun p member => Or.inl member⟩
  | file k v =>
    refine ⟨?_, ?_⟩
    · show (s.1.set k v now).enabled = s.1.enabled
      unfold Manager.set
      split <;> rfl
    · intro p member
      rcases Manager.mem_set member with rfl | old
      · exact Or.inr (List.mem_singleton.mpr rfl)
      · exact Or.inl old
  | save => exact ⟨s.1.enabled_flush s.2 now, fun p member => Or.inl (Manager.mem_flush member)⟩

theorem uses_ofManager (now : Nat) (made : List StoreUse) (s : Manager × CacheDir) :
    ((ofManager now).uses made s).1.enabled = s.1.enabled ∧
      ∀ p ∈ ((ofManager now).uses made s).1.entries.toList,
        p ∈ s.1.entries.toList ∨ (p.1, p.2.verdict) ∈ made.flatMap StoreUse.filed := by
  induction made generalizing s with
  | nil => exact ⟨rfl, fun p member => Or.inl member⟩
  | cons u rest ih =>
    obtain ⟨enabled, first⟩ := use_ofManager now s u
    obtain ⟨enabled', others⟩ := ih ((ofManager now).use s u)
    refine ⟨enabled'.trans enabled, ?_⟩
    intro p member
    rw [List.flatMap_cons, List.mem_append]
    rcases others p member with before | since
    · exact (first p before).imp id Or.inl
    · exact Or.inr (Or.inr since)

/-- A manager hands out its entries and what is filed in it. One that is disabled hands out nothing. -/
theorem ofManager_faithful {written : Key → Verdict → Prop} {s : Manager × CacheDir}
    (kept : s.1.enabled = true → ∀ p ∈ s.1.entries.toList, written p.1 p.2.verdict) :
    (ofManager now).Faithful written s := by
  intro made k entry found _
  obtain ⟨enabled, entries⟩ := uses_ofManager now made s
  have got : ((ofManager now).uses made s).1.get k = some entry := Except.ok.inj found
  unfold Manager.get at got
  split at got
  · rename_i works
    have member := Entries.get?_eq_some_iff.mp (Option.filter_eq_some_iff.mp got).1
    rcases entries (k, entry) member with before | since
    · exact Or.inl (kept (enabled.symm.trans works) _ before)
    · exact Or.inr since
  · exact absurd got (by simp)

end Store

end PolicyLint
