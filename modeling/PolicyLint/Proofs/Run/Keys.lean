import PolicyLint.Proofs.Digest.Key
import PolicyLint.Proofs.Json.Quote
import PolicyLint.Proofs.Run.Course

/-!
# Keys of tasks

Where digests do not collide, tasks with one key have rules with one name.
-/

namespace PolicyLint

namespace Task

def stream (t : Task) : List UInt8 := keyStream t.file.fingerprint t.rule.fingerprint t.model.fingerprint

/-- Among some tasks, neither the keys nor the fingerprints of rules collide. -/
def Apart (tasks : List Task) : Prop :=
  ∀ t ∈ tasks, ∀ t' ∈ tasks, (Blake3.hex t.stream = Blake3.hex t'.stream → t.stream = t'.stream) ∧
    (t.rule.fingerprint = t'.rule.fingerprint → t.rule.canonical = t'.rule.canonical)

theorem apart_singleton (t : Task) : Apart [t] := by
  intro u member u' member'
  obtain rfl := (List.mem_singleton.mp member).trans (List.mem_singleton.mp member').symm
  exact ⟨fun _ => rfl, fun _ => rfl⟩

theorem apart_twins {t t' : Task} (streams : t'.stream = t.stream) (rules : t'.rule = t.rule) : Apart [t, t'] := by
  have alike : ∀ u ∈ [t, t'], u.stream = t.stream ∧ u.rule = t.rule := by
    intro u member
    rcases List.mem_cons.mp member with rfl | last
    · exact ⟨rfl, rfl⟩
    · rw [List.mem_singleton.mp last]
      exact ⟨streams, rules⟩
  intro u member u' member'
  obtain ⟨stream, rule⟩ := alike u member
  obtain ⟨stream', rule'⟩ := alike u' member'
  exact ⟨fun _ => stream.trans stream'.symm, fun _ => by rw [rule, rule']⟩

theorem fingerprints_of_stream {t t' : Task} (same : t.stream = t'.stream) :
    t.file.fingerprint = t'.file.fingerprint ∧ t.rule.fingerprint = t'.rule.fingerprint ∧
      t.model.fingerprint = t'.model.fingerprint := by
  refine keyStream_inj ?_ same
  simp [SourceFile.fingerprint, Rule.fingerprint, Model.fingerprint, brief_fingerprint]

theorem name_of_key {tasks : List Task} (apart : Apart tasks) {t t' : Task} (member : t ∈ tasks) (member' : t' ∈ tasks)
    (same : t.key = t'.key) : t.rule.name = t'.rule.name := by
  obtain ⟨streams, rules⟩ := apart t member t' member'
  obtain ⟨_, prints, _⟩ := fingerprints_of_stream (streams (congrArg Key.text same))
  exact Rule.name_of_canonical (rules prints)

/-- Nothing that is hashed for the one key collides with its counterpart for the other. -/
structure Collisionless (t t' : Task) : Prop where
  stream : Blake3.hex t.stream = Blake3.hex t'.stream → t.stream = t'.stream
  content : t.file.fingerprint = t'.file.fingerprint → t.file.content = t'.file.content
  rule : t.rule.fingerprint = t'.rule.fingerprint → t.rule.canonical = t'.rule.canonical
  model : t.model.fingerprint = t'.model.fingerprint → t.model.canonical = t'.model.canonical

/-- Tasks whose models have one canonical text are hashed alike. -/
theorem collisionless_of_canonical {file : SourceFile} {rule : Rule} {model model' : Model}
    (same : model.canonical = model'.canonical) : Collisionless ⟨file, rule, model⟩ ⟨file, rule, model'⟩ := by
  have prints : model.fingerprint = model'.fingerprint := congrArg PolicyLint.fingerprint same
  exact ⟨fun _ => congrArg (keyStream file.fingerprint rule.fingerprint) prints, fun _ => rfl, fun _ => rfl, fun _ => same⟩

theorem texts_of_key {t t' : Task} (collisionless : t.Collisionless t') (same : t.key = t'.key) :
    t.file.content = t'.file.content ∧ t.rule.canonical = t'.rule.canonical ∧ t.model.canonical = t'.model.canonical := by
  obtain ⟨file, rule, model⟩ := fingerprints_of_stream (collisionless.stream (congrArg Key.text same))
  exact ⟨collisionless.content file, collisionless.rule rule, collisionless.model model⟩

/-- Nothing collides for these two contents. -/
theorem key_ne_of_content :
    key { file := ⟨"b.ts", "let b;"⟩, rule := { name := "no-let", description := "Use const." }, model := {} } ≠
      key { file := ⟨"c.ts", "let c;"⟩, rule := { name := "no-let", description := "Use const." }, model := {} } := by
  decide +kernel

end Task

namespace Engine

theorem separate_of_names {rules : List Rule} (distinct : (rules.map Rule.name).Nodup) {tasksOf : Rule → List Task}
    (own : ∀ rule ∈ rules, ∀ t ∈ tasksOf rule, t.rule = rule) (apart : Task.Apart (rules.map tasksOf).flatten) :
    Separate (· ≠ ·) (rules.map tasksOf) := by
  have listed : ∀ rule ∈ rules, ∀ t ∈ tasksOf rule, t ∈ (rules.map tasksOf).flatten :=
    fun rule member t there => List.mem_flatten.mpr ⟨_, List.mem_map_of_mem member, there⟩
  rw [Separate, List.pairwise_map]
  refine List.Pairwise.imp_of_mem ?_ (List.pairwise_map.mp distinct)
  intro rule rule' member member' different t there t' there' same
  have names := Task.name_of_key apart (listed rule member t there) (listed rule' member' t' there') same
  rw [own rule member t there, own rule' member' t' there'] at names
  exact different names

end Engine

end PolicyLint
