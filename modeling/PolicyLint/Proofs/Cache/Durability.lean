import PolicyLint.Proofs.Cache.Operation

/-!
# What is saved and what is pending

A manager without pending changes has the entries of the saved file, whatever was asked of it before and
however often saving failed: `Backed`, which every act keeps. So a flush that succeeds can be relied on,
`load_of_flushed`, and a failure loses nothing, `kept_of_failed`.
-/

namespace PolicyLint

namespace Entries

theorem erase_of_get?_eq_none {es : Entries} {k : Key} (absent : es.get? k = none) : es.erase k = es := by
  have all : es.toList.filter (fun p => p.1 ≠ k) = es.toList := by
    apply List.filter_eq_self.mpr
    rintro ⟨k', e⟩ member
    apply decide_eq_true
    rintro rfl
    rw [get?_eq_some_iff.mpr member] at absent
    exact absurd absent (by simp)
  unfold erase
  congr

end Entries

namespace CacheDir

def Readable (d : CacheDir) : Prop := d.saved = none ∨ ∃ es, d.saved = some (.entries es)

def contents (d : CacheDir) : Entries :=
  match d.saved with
  | some (.entries es) => es
  | _ => {}

theorem contents_of_absent {d : CacheDir} (absent : d.saved = none) : d.contents = {} := by
  rw [contents, absent]

theorem contents_of_entries {d : CacheDir} {es : Entries} (saved : d.saved = some (.entries es)) :
    d.contents = es := by
  rw [contents, saved]

theorem Readable.read_ne_error {d : CacheDir} (readable : d.Readable) (fault : StoreFault) :
    d.read ≠ .error fault := by
  unfold read
  rcases readable with absent | ⟨es, saved⟩
  · simp [absent]
  · simp [saved]

end CacheDir

namespace Manager

/-- Without pending changes a manager has the saved entries. -/
structure Backed (m : Manager) (d : CacheDir) : Prop where
  readable : d.Readable
  contents : m.dirty = false → d.contents = m.entries

variable {m : Manager} {d : CacheDir} {now : Nat} {k : Key} {e : Entry}

/-- Without pending changes the saved file holds the entries of a manager. -/
def Secured (m : Manager) (d : CacheDir) : Prop := m.dirty = false → d.saved = some (.entries m.entries)

theorem Backed.pruned (backed : m.Backed d) (now : Nat) : (m.prune now).2.Backed d where
  readable := backed.readable
  contents clean := by
    have same := prune_eq_self_of_clean clean
    rw [same] at clean ⊢
    exact backed.contents clean

theorem Backed.removed (backed : m.Backed d) (k : Key) : (m.remove k).Backed d where
  readable := backed.readable
  contents clean := by
    rw [remove, Bool.or_eq_false_iff] at clean
    have absent : m.entries.get? k = none := by simpa using clean.2
    rw [backed.contents clean.1, remove, Entries.erase_of_get?_eq_none absent]

theorem secured_of_dirty (dirty : m.dirty = true) : m.Secured d :=
  fun clean => absurd (dirty.symm.trans clean) (by simp)

theorem backed_of_dirty (readable : d.Readable) (dirty : m.dirty = true) : m.Backed d :=
  ⟨readable, fun clean => absurd (dirty.symm.trans clean) (by simp)⟩

/-- A manager without pending changes and without expired entries is read back by a new one. -/
theorem Backed.load_fresh (backed : m.Backed d) (clean : m.dirty = false) (young : (m.prune now).2 = m) :
    ∃ fresh, ({ maxAge := m.maxAge } : Manager).load d now = .ok fresh ∧ fresh.entries = m.entries := by
  rcases ({ maxAge := m.maxAge } : Manager).load_cases d now with
    ⟨absent, loaded⟩ | ⟨_, es, saved, loaded⟩ | ⟨_, fault, failed, _⟩
  · have nothing := CacheDir.contents_of_absent (absent.resolve_left (by simp))
    exact ⟨_, loaded, nothing.symm.trans (backed.contents clean)⟩
  · obtain rfl : es = m.entries := (CacheDir.contents_of_entries saved).symm.trans (backed.contents clean)
    have kept : m.entries = (m.prune now).2.entries := by rw [young]
    have same := prune_eq_self_of_pruned m { entries := m.entries, maxAge := m.maxAge } rfl kept
    exact ⟨_, loaded, by rw [same]⟩
  · exact absurd failed (backed.readable.read_ne_error fault)

end Manager

namespace Act

variable {a : Act} {s : Manager × CacheDir} {acts : List Act}

/-! ### Success -/

theorem backed_perform (backed : s.1.Backed s.2) (a : Act) : (a.perform s).2.1.Backed (a.perform s).2.2 := by
  -- What stands in the way of the next write is no part of what was saved.
  have still : s.1.Backed { s.2 with refusal := a.refusal } := ⟨backed.readable, backed.contents⟩
  obtain ⟨operation, now, refusal⟩ := a
  cases operation with
  | get k => exact still
  | set k v =>
    simp only [perform, Manager.set]
    split
    · exact Manager.backed_of_dirty backed.readable rfl
    · exact still
  | remove k => exact still.removed k
  | clear => exact Manager.backed_of_dirty backed.readable rfl
  | prune => exact still.pruned now
  | load =>
    rcases perform_load (a := ⟨.load, now, refusal⟩) (s := s) rfl with ⟨_, ends⟩ | ⟨_, es, saved, ends⟩ | ⟨_, _, _, ends⟩
    · rw [ends]
      exact still
    · have loaded : ({ s.1 with entries := es, dirty := false } : Manager).Backed { s.2 with refusal } :=
        ⟨backed.readable, fun _ => CacheDir.contents_of_entries saved⟩
      rw [ends]
      exact loaded.pruned now
    · rw [ends]
      exact still
  | flush =>
    rcases perform_flush (a := ⟨.flush, now, refusal⟩) (s := s) rfl with
      ⟨_, ends⟩ | ⟨_, _, ends⟩ | ⟨_, _, made, temporary, ends⟩ | ⟨_, dirty, _, _, _, ends⟩
    · rw [ends]
      exact still
    · rw [ends]
      exact still
    · rw [ends]
      exact ⟨Or.inr ⟨_, rfl⟩, fun _ => rfl⟩
    · rw [ends]
      exact Manager.backed_of_dirty backed.readable dirty
  | disable => exact ⟨still.readable, still.contents⟩
  | enable => exact ⟨still.readable, still.contents⟩

theorem backed_after (backed : s.1.Backed s.2) (acts : List Act) : (after s acts).1.Backed (after s acts).2 := by
  induction acts generalizing s with
  | nil => exact backed
  | cons a rest ih => exact ih (backed_perform backed a)

theorem backed_of_load {age : Option Nat} {d : CacheDir} (readable : d.Readable) {first : Act}
    (opens : first.operation = .load) :
    (first.perform ({ maxAge := age }, d)).2.1.Backed (first.perform ({ maxAge := age }, d)).2.2 := by
  rcases perform_load (a := first) (s := ({ maxAge := age }, d)) opens with
    ⟨absent, ends⟩ | ⟨_, es, saved, ends⟩ | ⟨_, fault, failed, _⟩
  · have nothing : d.saved = none := absent.resolve_left (by simp)
    rw [ends]
    exact ⟨Or.inl nothing, fun _ => CacheDir.contents_of_absent nothing⟩
  · have loaded : ({ entries := es, maxAge := age } : Manager).Backed { d with refusal := first.refusal } :=
      ⟨readable, fun _ => CacheDir.contents_of_entries saved⟩
    rw [ends]
    exact loaded.pruned first.now
  · exact absurd failed (readable.read_ne_error fault)

theorem manager_of_flushed (asked : a.operation = .flush) (works : s.1.enabled = true)
    (flushed : (a.perform s).1 = .done) :
    (a.perform s).2.1 = { (s.1.prune a.now).2 with dirty := false } := by
  rcases (perform_flush (s := s) asked).resolve_left (by simp [works]) with
    ⟨_, clean, ends⟩ | ⟨_, _, _, _, ends⟩ | ⟨_, _, _, _, _, ends⟩
  · have same := Manager.prune_eq_self_of_clean clean
    rw [same] at clean ⊢
    rw [ends, ← clean]
  · rw [ends]
  · rw [ends] at flushed
    exact absurd flushed (by simp)

/-- A flush that succeeds leaves entries that a new manager loads, whatever was asked of the manager since it
was loaded itself. -/
theorem load_of_flushed {age : Option Nat} {d : CacheDir} (readable : d.Readable) {first : Act}
    (opens : first.operation = .load) (acts : List Act) {a : Act} (asked : a.operation = .flush)
    (works : (after ({ maxAge := age }, d) (first :: acts)).1.enabled = true)
    (flushed : (a.perform (after ({ maxAge := age }, d) (first :: acts))).1 = .done) :
    ∃ fresh, ({ maxAge := age } : Manager).load
        (a.perform (after ({ maxAge := age }, d) (first :: acts))).2.2 a.now = .ok fresh ∧
      fresh.entries = (a.perform (after ({ maxAge := age }, d) (first :: acts))).2.1.entries := by
  have aged := maxAge_after ({ maxAge := age }, d) (first :: acts)
  have backed : (after ({ maxAge := age }, d) (first :: acts)).1.Backed (after ({ maxAge := age }, d) (first :: acts)).2 :=
    backed_after (backed_of_load readable opens) acts
  generalize after ({ maxAge := age }, d) (first :: acts) = s at works flushed aged backed ⊢
  have saved := backed_perform backed a
  rw [manager_of_flushed asked works flushed] at saved ⊢
  have sameAge := (s.1.prune_shape a.now).2.1
  have young := Manager.prune_eq_self_of_pruned s.1 { (s.1.prune a.now).2 with dirty := false } sameAge rfl
  have fresh := saved.load_fresh rfl young
  rw [show ({ (s.1.prune a.now).2 with dirty := false } : Manager).maxAge = age from sameAge.trans aged] at fresh
  exact fresh

theorem load_of_flushed_of_retried :
    let first : Act := ⟨.load, 0, none⟩
    let acts : List Act :=
      [⟨.set ⟨"a"⟩ {}, 1, none⟩, ⟨.flush, 2, some (.rename, .isDirectory)⟩, ⟨.set ⟨"b"⟩ {}, 8, none⟩]
    let a : Act := ⟨.flush, 9, none⟩
    let s := after ({ maxAge := some 5 }, {}) (first :: acts)
    (({} : CacheDir).Readable ∧ first.operation = .load ∧ a.operation = .flush ∧ s.1.enabled = true ∧
      (a.perform s).1 = .done) ∧
      ∃ fresh, ({ maxAge := some 5 } : Manager).load (a.perform s).2.2 9 = .ok fresh ∧
        fresh.entries = (a.perform s).2.1.entries := by
  intro first acts a s
  have readable : ({} : CacheDir).Readable := Or.inl rfl
  have works : s.1.enabled = true := by decide
  have flushed : (a.perform s).1 = .done := by decide
  exact ⟨⟨readable, rfl, rfl, works, flushed⟩, load_of_flushed readable rfl acts rfl works flushed⟩

/-! ### Failure -/

theorem keeps_perform (a : Act) (s : Manager × CacheDir) {now : Nat} {e : Entry} :
    (a.perform s).2.1.Keeps now e ↔ s.1.Keeps now e := by
  rw [Manager.Keeps, Manager.Keeps, maxAge_perform]

theorem secured_flush (asked : a.operation = .flush) (works : s.1.enabled = true) (secured : s.1.Secured s.2) :
    (a.perform s).2.1.Secured (a.perform s).2.2 := by
  rcases (perform_flush (s := s) asked).resolve_left (by simp [works]) with
    ⟨_, _, ends⟩ | ⟨_, _, _, _, ends⟩ | ⟨_, dirty, _, _, _, ends⟩
  · rw [ends]
    exact secured
  · rw [ends]
    exact fun _ => rfl
  · rw [ends]
    exact Manager.secured_of_dirty dirty

theorem pending_of_failed {fault : StoreFault} (asked : a.operation = .flush)
    (failed : (a.perform s).1 = .failed fault) :
    s.1.enabled = true ∧ (a.perform s).2.1.dirty = true ∧ (a.perform s).2.2.saved = s.2.saved := by
  rcases perform_flush (s := s) asked with
    ⟨_, ends⟩ | ⟨_, _, ends⟩ | ⟨_, _, _, _, ends⟩ | ⟨works, dirty, _, _, _, ends⟩
  · rw [ends] at failed
    exact absurd failed (by simp)
  · rw [ends] at failed
    exact absurd failed (by simp)
  · rw [ends] at failed
    exact absurd failed (by simp)
  · rw [ends]
    exact ⟨works, dirty, rfl⟩

/-- However many flushes fail, they lose only what expires in the meantime. -/
theorem after_flushes (asked : ∀ a ∈ acts, a.operation = .flush) (works : s.1.enabled = true)
    (secured : s.1.Secured s.2) :
    (after s acts).1.enabled = true ∧ (after s acts).1.Secured (after s acts).2 ∧
      ∀ k e, (after s acts).1.entries.get? k = some e ↔
        s.1.entries.get? k = some e ∧ ∀ a ∈ acts, s.1.Keeps a.now e := by
  induction acts generalizing s with
  | nil => exact ⟨works, secured, by simp [after]⟩
  | cons a rest ih =>
    have flush := asked a List.mem_cons_self
    obtain ⟨on, entries⟩ := entries_flush flush works
    obtain ⟨still, pending, left⟩ :=
      ih (fun b member => asked b (List.mem_cons_of_mem _ member)) on (secured_flush flush works secured)
    refine ⟨still, pending, fun k e => ?_⟩
    have begins : after s (a :: rest) = after (a.perform s).2 rest := rfl
    rw [begins, left, entries, Manager.get?_prune_iff, List.forall_mem_cons, and_assoc]
    simp only [keeps_perform]

/-- Only loading and flushing fail. A load that fails changes nothing. A flush that fails leaves the saved file
alone and drops only expired entries; the others are saved by the next flush that succeeds. -/
theorem kept_of_failed {fault : StoreFault} (failed : (a.perform s).1 = .failed fault) :
    (a.operation = .load ∧ (a.perform s).2.1 = s.1 ∧ (a.perform s).2.2.files = s.2.files) ∨
    (a.operation = .flush ∧ (a.perform s).2.2.saved = s.2.saved ∧ (a.perform s).2.1.dirty = true ∧
      (∀ k e, (a.perform s).2.1.entries.get? k = some e ↔ s.1.entries.get? k = some e ∧ s.1.Keeps a.now e) ∧
      ∀ (flushes : List Act) (last : Act), (∀ b ∈ flushes ++ [last], b.operation = .flush) →
        (last.perform (after (a.perform s).2 flushes)).1 = .done →
        ∃ es, (after (a.perform s).2 (flushes ++ [last])).2.saved = some (.entries es) ∧
          ∀ k e, es.get? k = some e ↔
            s.1.entries.get? k = some e ∧ ∀ b ∈ a :: (flushes ++ [last]), s.1.Keeps b.now e) := by
  cases asked : a.operation with
  | load =>
    rcases perform_load (s := s) asked with ⟨_, ends⟩ | ⟨_, _, _, ends⟩ | ⟨_, _, _, ends⟩
    · rw [ends] at failed
      exact absurd failed (by simp)
    · rw [ends] at failed
      exact absurd failed (by simp)
    · rw [ends]
      exact Or.inl ⟨rfl, rfl, rfl⟩
  | flush =>
    obtain ⟨works, dirty, saved⟩ := pending_of_failed asked failed
    obtain ⟨on, entries⟩ := entries_flush asked works
    have secured : (a.perform s).2.1.Secured (a.perform s).2.2 := Manager.secured_of_dirty dirty
    refine Or.inr ⟨rfl, saved, dirty, fun k e => ?_, fun flushes last asks flushed => ?_⟩
    · rw [entries, Manager.get?_prune_iff]
    · obtain ⟨onThen, _, _⟩ := after_flushes (fun b member => asks b (List.mem_append_left _ member)) on secured
      obtain ⟨_, written, left⟩ := after_flushes asks on secured
      have ends := manager_of_flushed (asks last (by simp)) onThen flushed
      rw [← after_concat] at ends
      refine ⟨_, written (congrArg Manager.dirty ends), fun k e => ?_⟩
      rw [left, entries, Manager.get?_prune_iff, List.forall_mem_cons, and_assoc]
      simp only [keeps_perform]
  | _ => simp [perform, asked] at failed

theorem kept_of_failed_of_refused :
    let s := after ({ maxAge := some 5 }, { saved := some .garbage })
      [⟨.set ⟨"a"⟩ {}, 1, none⟩, ⟨.set ⟨"b"⟩ {}, 4, none⟩]
    let a : Act := ⟨.flush, 4, some (.makeDirectory, .notDirectory)⟩
    let flushes : List Act := [⟨.flush, 5, some (.rename, .isDirectory)⟩]
    let last : Act := ⟨.flush, 7, none⟩
    (a.perform s).1 = .failed (.file .notDirectory) ∧
      (last.perform (after (a.perform s).2 flushes)).1 = .done ∧
      (a.perform s).2.2.saved = some .garbage ∧
      ∃ es, (after (a.perform s).2 (flushes ++ [last])).2.saved = some (.entries es) ∧
        es.get? ⟨"b"⟩ = some ⟨⟨"b"⟩, {}, 4⟩ := by
  intro s a flushes last
  have failed : (a.perform s).1 = .failed (.file .notDirectory) := by decide
  have flushed : (last.perform (after (a.perform s).2 flushes)).1 = .done := by decide
  have entered : s.1.entries.get? ⟨"b"⟩ = some ⟨⟨"b"⟩, {}, 4⟩ := by decide
  rcases kept_of_failed failed with ⟨asked, _⟩ | ⟨_, saved, _, _, later⟩
  · exact absurd asked (by decide)
  · obtain ⟨es, written, holds⟩ := later flushes last (by simp [flushes, last]) flushed
    refine ⟨failed, flushed, saved, es, written, (holds _ _).mpr ⟨entered, ?_⟩⟩
    intro b member age limit
    have five : 5 = age := Option.some.inj limit
    subst five
    simp only [a, flushes, last, List.mem_cons, List.mem_append, List.not_mem_nil, or_false] at member
    rcases member with rfl | rfl | rfl <;> simp

end Act

end PolicyLint
