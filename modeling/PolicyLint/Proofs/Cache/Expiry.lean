import PolicyLint.Proofs.Cache.Operation
import PolicyLint.Review.Start

/-!
# Expired entries

A configuration gives the greatest age of an entry in days, and a manager takes it in seconds, cut off at the greatest
number that eight bytes can hold. `kept_iff_fresh` says that nothing is lost by that: loading, flushing and pruning
keep an entry if its exact age is within the days, whatever the clock did before.
-/

namespace PolicyLint

/-- At this time an entry is not older than some days. Without days there is no limit. -/
def Entry.Fresh (e : Entry) (days now : Nat) : Prop :=
  days = 0 ∨ now ≤ e.created ∨ (now : Int) - e.created ≤ days * 86400

namespace Manager

variable {m : Manager} {config : Config} {now : Nat}

theorem keeps_iff_fresh (built : m.maxAge = (ofConfig config).maxAge) (reading : now ≤ Config.longestAge) (e : Entry) :
    m.Keeps now e ↔ e.Fresh config.cacheMaxAgeDays now := by
  have limit : m.maxAge = config.cacheMaxAge? := built
  unfold Config.longestAge at reading
  unfold Keeps Entry.Fresh
  rw [limit, Config.cacheMaxAge?]
  by_cases never : config.cacheMaxAgeDays = 0
  · simp [never]
  · -- no reading is as great as the number at which the limit is cut off
    simp only [never, if_false, Option.some.injEq, forall_eq', false_or, Config.secondsPerDay, Config.longestAge]
    omega

theorem prune_count (m : Manager) (now : Nat) :
    (m.prune now).1 + (m.prune now).2.entries.size = m.entries.size := by
  unfold prune
  split
  · exact Nat.zero_add _
  · rename_i maxAge _
    have fewer : (m.entries.prune now maxAge).size ≤ m.entries.size := List.length_filter_le _ _
    dsimp only
    omega

end Manager

namespace Act

variable {a : Act} {s : Manager × CacheDir}

/-- Of these entries the act leaves the fresh ones, each as it was, and pruning at the same time finds nothing more to
remove. -/
structure Spares (a : Act) (s : Manager × CacheDir) (es : Entries) (days : Nat) : Prop where
  left : ∀ k e, (a.perform s).2.1.entries.get? k = some e ↔ es.get? k = some e ∧ e.Fresh days a.now
  again : ∀ b : Act, b.operation = .prune → b.now = a.now →
    (b.perform (a.perform s).2).1 = .removed 0 ∧ (b.perform (a.perform s).2).2.1 = (a.perform s).2.1

theorem spares_of_pruned {m : Manager} {config : Config} (built : m.maxAge = (Manager.ofConfig config).maxAge)
    (aged : s.1.maxAge = m.maxAge) (reading : a.now ≤ Config.longestAge)
    (left : (a.perform s).2.1.entries = (m.prune a.now).2.entries) :
    a.Spares s m.entries config.cacheMaxAgeDays := by
  constructor
  · intro k e
    rw [left, Manager.get?_prune_iff, Manager.keeps_iff_fresh built reading]
  · intro b prunes now
    obtain ⟨operation, time, refusal⟩ := b
    obtain rfl : operation = .prune := prunes
    obtain rfl : time = a.now := now
    have same : ((a.perform s).2.1.prune a.now).2 = (a.perform s).2.1 :=
      Manager.prune_eq_self_of_pruned m _ ((maxAge_perform a s).trans aged) left
    have count := (a.perform s).2.1.prune_count a.now
    rw [same] at count
    have none : ((a.perform s).2.1.prune a.now).1 = 0 := by omega
    exact ⟨congrArg Reply.removed none, same⟩

/-- A manager with the limit of a configuration, after any past. A load that reads saved entries, a flush and a prune
leave the fresh entries and no others, by the exact age at the time that the clock shows, and a prune tells how many
it removed. -/
theorem kept_iff_fresh {m : Manager} {d : CacheDir} {config : Config} (past : List Act) (a : Act)
    (built : m.maxAge = (Manager.ofConfig config).maxAge) (reading : a.now ≤ Config.longestAge) :
    let s := after (m, d) past
    (a.operation = .load → s.1.enabled = true → ∀ es, s.2.saved = some (.entries es) →
      (a.perform s).1 = .done ∧ a.Spares s es config.cacheMaxAgeDays) ∧
    (a.operation = .flush → s.1.enabled = true → a.Spares s s.1.entries config.cacheMaxAgeDays) ∧
    (a.operation = .prune → a.Spares s s.1.entries config.cacheMaxAgeDays ∧
      ∃ count, (a.perform s).1 = .removed count ∧ count + (a.perform s).2.1.entries.size = s.1.entries.size) := by
  intro s
  have aged : s.1.maxAge = (Manager.ofConfig config).maxAge := (maxAge_after (m, d) past).trans built
  refine ⟨fun loads works es saved => ?_, fun flushes works => ?_, fun prunes => ⟨?_, ?_⟩⟩
  · rcases perform_load (s := s) loads with ⟨idle | absent, _⟩ | ⟨_, es', saved', ends⟩ | ⟨_, fault, failed, _⟩
    · exact absurd (idle.symm.trans works) (by simp)
    · exact absurd (absent.symm.trans saved) (by simp)
    · obtain rfl : es' = es := by simpa [saved] using saved'.symm
      refine ⟨by rw [ends], ?_⟩
      apply spares_of_pruned (m := { s.1 with entries := es', dirty := false }) aged rfl reading
      rw [ends]
    · rw [CacheDir.read, saved] at failed
      exact absurd failed (by simp)
  · exact spares_of_pruned aged rfl reading (entries_flush flushes works).2
  · apply spares_of_pruned aged rfl reading
    simp only [perform, prunes]
  · refine ⟨(s.1.prune a.now).1, ?_, ?_⟩
    · simp only [perform, prunes]
    · simp only [perform, prunes]
      exact s.1.prune_count a.now

/-- One entry is a day old when it is loaded, and another one is older by a second. -/
theorem kept_iff_fresh_of_day :
    let config : Config := { cacheMaxAgeDays := 1 }
    let old : Entry := ⟨⟨"old"⟩, {}, 0⟩
    let young : Entry := ⟨⟨"young"⟩, {}, 1⟩
    let d : CacheDir := { saved := some (.entries ⟨[(⟨"old"⟩, old), (⟨"young"⟩, young)], by decide⟩) }
    let load : Act := ⟨.load, 86401, none⟩
    let loaded := (load.perform (Manager.ofConfig config, d)).2
    loaded.1.entries.get? ⟨"old"⟩ ≠ some old ∧ loaded.1.entries.get? ⟨"young"⟩ = some young ∧
      ((⟨.prune, 86401, none⟩ : Act).perform loaded).1 = .removed 0 := by
  intro config old young d load loaded
  have built : (Manager.ofConfig config).maxAge = (Manager.ofConfig config).maxAge := rfl
  obtain ⟨loads, _⟩ := kept_iff_fresh (d := d) [] load built (by decide)
  obtain ⟨_, left, again⟩ := loads rfl rfl _ rfl
  refine ⟨fun kept => ?_, (left _ _).mpr ⟨by decide, ?_⟩, (again ⟨.prune, 86401, none⟩ rfl rfl).1⟩
  · obtain ⟨_, fresh⟩ := (left _ _).mp kept
    simp [Entry.Fresh, old, config, load] at fresh
  · simp [Entry.Fresh, young, config, load]

end Act

end PolicyLint
