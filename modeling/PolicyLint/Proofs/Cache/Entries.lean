import PolicyLint.Cache.Entry

/-!
# Entries as a map

A key has at most one entry, so looking it up is finding it: `get?_eq_some_iff`. What filing, erasing and
pruning do to a lookup follows from what they do to the list.
-/

namespace PolicyLint.Entries

variable {es : Entries} {k k' : Key} {e e' : Entry}

theorem lookup_eq_some_iff {l : List (Key × Entry)} (nodup : (l.map (·.1)).Nodup) :
    l.lookup k = some e ↔ (k, e) ∈ l := by
  induction l with
  | nil => simp
  | cons p rest ih =>
    obtain ⟨key, entry⟩ := p
    obtain ⟨fresh, nodup⟩ := List.nodup_cons.mp nodup
    by_cases same : k = key
    · subst same
      have absent : (k, e) ∉ rest := fun member => fresh (List.mem_map.mpr ⟨_, member, rfl⟩)
      simp [absent, eq_comm]
    · have other : (k == key) = false := beq_eq_false_iff_ne.mpr same
      rw [List.lookup_cons, other, ih nodup]
      simp [same]

theorem get?_eq_some_iff : es.get? k = some e ↔ (k, e) ∈ es.toList := lookup_eq_some_iff es.nodup_keys

theorem get?_erase_iff : (es.erase k').get? k = some e ↔ k ≠ k' ∧ es.get? k = some e := by
  rw [get?_eq_some_iff, get?_eq_some_iff, erase, List.mem_filter, and_comm]
  simp

theorem get?_insert_iff :
    (es.insert k' e').get? k = some e ↔ k = k' ∧ e = e' ∨ k ≠ k' ∧ es.get? k = some e := by
  rw [← get?_erase_iff, get?_eq_some_iff, get?_eq_some_iff, insert, List.mem_cons, Prod.mk.injEq]

theorem get?_prune_iff {now maxAge : Nat} :
    (es.prune now maxAge).get? k = some e ↔ es.get? k = some e ∧ e.isExpired now maxAge = false := by
  rw [get?_eq_some_iff, get?_eq_some_iff, prune, List.mem_filter, Bool.not_eq_true']

theorem get?_insert_self (es : Entries) (k : Key) (e : Entry) : (es.insert k e).get? k = some e :=
  get?_insert_iff.mpr (Or.inl ⟨rfl, rfl⟩)

theorem get?_insert_of_ne (es : Entries) (different : k' ≠ k) (e : Entry) :
    (es.insert k' e).get? k = es.get? k := by
  apply Option.ext
  intro found
  rw [get?_insert_iff]
  simp [Ne.symm different]

/-- Entries of which none is dropped by pruning are left as they are. -/
theorem prune_eq_self_iff {now maxAge : Nat} :
    es.prune now maxAge = es ↔ (es.prune now maxAge).size = es.size := by
  constructor
  · intro same
    rw [same]
  · intro size
    have all : es.toList.filter (fun p => !p.2.isExpired now maxAge) = es.toList :=
      List.filter_eq_self.mpr (List.length_filter_eq_length_iff.mp size)
    unfold prune
    congr

theorem prune_prune (es : Entries) (now maxAge : Nat) :
    (es.prune now maxAge).prune now maxAge = es.prune now maxAge := by
  unfold prune
  congr 1
  rw [List.filter_filter]
  simp

end PolicyLint.Entries
