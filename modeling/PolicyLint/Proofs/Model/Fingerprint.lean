import PolicyLint.Proofs.Model.Canonical
import PolicyLint.Proofs.Run.Keys

/-!
# Fingerprints of accepted settings

Different settings that were read from texts have different canonical texts, and their checks have different
keys, unless they differ only in the sign of an infinite temperature.
-/

namespace PolicyLint.Model

variable {m m' : Model}

/-- Settings that are alike have one canonical text, and no others that are accepted do. -/
theorem separates_accepted {text text' : String} (accepted : decoder.ofText text = .ok m)
    (accepted' : decoder.ofText text' = .ok m') :
    (m.canonical = m'.canonical ↔ m.Alike m') ∧
      ∀ file rule, Task.Collisionless ⟨file, rule, m⟩ ⟨file, rule, m'⟩ →
        ((⟨file, rule, m⟩ : Task).key = (⟨file, rule, m'⟩ : Task).key ↔ m.Alike m') := by
  have texts := canonical_iff_of_accepted accepted accepted'
  refine ⟨texts, fun file rule collisionless => ⟨fun same => ?_, fun alike => ?_⟩⟩
  · exact texts.mp (Task.texts_of_key collisionless same).2.2
  · have prints : m.fingerprint = m'.fingerprint := congrArg PolicyLint.fingerprint alike.canonical
    rw [Task.key, Task.key, prints]

theorem separates_accepted_of_temperatures :
    (∃ m m' : Model, decoder.ofText "\x7b\x7d" = .ok m ∧ decoder.ofText "\x7b\"temperature\": 0.5\x7d" = .ok m' ∧
      m.canonical ≠ m'.canonical) ∧
    ∃ m m' : Model, decoder.ofText "\x7b\"temperature\": 1e39\x7d" = .ok m ∧
      decoder.ofText "\x7b\"temperature\": -1e39\x7d" = .ok m' ∧
      ∀ file rule, (⟨file, rule, m⟩ : Task).key = (⟨file, rule, m'⟩ : Task).key := by
  constructor
  · have cold : decoder.ofText "\x7b\x7d" = .ok {} := by decide +kernel
    have warm : decoder.ofText "\x7b\"temperature\": 0.5\x7d" =
        .ok { temperature := .finite false ⟨8388608, -24⟩ } := by decide +kernel
    have different : ¬({} : Model).Alike { temperature := .finite false ⟨8388608, -24⟩ } := by
      rintro (same | ⟨sign, sign', infinite, _⟩)
      · exact absurd same (by decide)
      · cases infinite
    exact ⟨_, _, cold, warm, mt (separates_accepted cold warm).1.mp different⟩
  · have above : decoder.ofText "\x7b\"temperature\": 1e39\x7d" = .ok { temperature := .infinite false } := by
      decide +kernel
    have below : decoder.ofText "\x7b\"temperature\": -1e39\x7d" = .ok { temperature := .infinite true } := by
      decide +kernel
    have alike : Alike { temperature := .infinite false } { temperature := .infinite true } :=
      Or.inr ⟨false, true, rfl, rfl⟩
    obtain ⟨_, keys⟩ := separates_accepted above below
    exact ⟨_, _, above, below, fun file rule =>
      (keys file rule (Task.collisionless_of_canonical alike.canonical)).mpr alike⟩

theorem not_separated_of_infinite : ∃ m m' : Model, decoder.ofText "\x7b\"temperature\": 1e39\x7d" = .ok m ∧
    decoder.ofText "\x7b\"temperature\": -1e39\x7d" = .ok m' ∧ m.temperature ≠ m'.temperature ∧
      m.canonical = m'.canonical :=
  ⟨{ temperature := .infinite false }, { temperature := .infinite true }, by decide +kernel, by decide +kernel,
    by decide, rfl⟩

end PolicyLint.Model
