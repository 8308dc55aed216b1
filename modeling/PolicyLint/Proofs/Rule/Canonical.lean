import PolicyLint.Proofs.Json.Decoding
import PolicyLint.Rule.Basic

/-!
# Canonical texts of rules

The canonical text of a rule says all of it: it is accepted as that very rule, so rules with one text are
equal, and writing what was accepted gives a text that is written again as it is.
-/

namespace PolicyLint.Rule

open Json

namespace Example

def slots (e : Example) : List (String × Option Json) :=
  [("code", some (.string e.code)), ("language", e.language.map .string)]

theorem toJson_eq (e : Example) : e.toJson = .object (present e.slots) := rfl

theorem reads_toJson (e : Example) : decoder.Reads e.toJson e := by
  rw [toJson_eq]
  have take : record.fields.Take e.slots (e.code, e.language, ()) :=
    ⟨_, _, rfl, Decoder.reads_string e.code, _, _, rfl,
      Field.takes_optional e.language (fun s _ => Decoder.reads_string s) (by simp), rfl⟩
  exact Record.reads_present (by decide) take

theorem proper_toJson (e : Example) : e.toJson.Proper := by
  rw [toJson_eq]
  exact proper_present (by simp [slots, Json.Proper])

end Example

def examplesSlot (examples : List Example) : Option Json :=
  if examples.isEmpty then none else some (.array (examples.map Example.toJson))

def slots (r : Rule) : List (String × Option Json) :=
  [("name", some (.string r.name)), ("title", r.title.map .string), ("description", some (.string r.description)),
    ("scope", some (.string r.scope.name)), ("correct_examples", examplesSlot r.correct),
    ("incorrect_examples", examplesSlot r.incorrect)]

theorem examplesField_eq (name : String) (examples : List Example) :
    examplesField name examples = (examplesSlot examples).map (name, ·) := by
  rw [examplesField, examplesSlot]
  split <;> rfl

theorem toJson_eq (r : Rule) : r.toJson = .object (present r.slots) := by
  rw [toJson, examplesField_eq, examplesField_eq]
  rfl

theorem takes_examples (name : String) (examples : List Example) :
    (Field.withDefault name (.list Example.decoder) []).Takes (examplesSlot examples) examples := by
  cases examples with
  | nil => rfl
  | cons e rest =>
    apply Decoder.reads_list
    rw [List.forall₂_map_left_iff, List.forall₂_same]
    exact fun e _ => e.reads_toJson

theorem reads_toJson (r : Rule) : decoder.Reads r.toJson r := by
  rw [toJson_eq]
  have scope : Scope.named.lookup r.scope.name = some r.scope := by
    cases r.scope <;> decide
  have take : record.fields.Take r.slots (r.name, r.title, r.description, r.scope, r.correct, r.incorrect, ()) :=
    ⟨_, _, rfl, Decoder.reads_string r.name, _, _, rfl,
      Field.takes_optional r.title (fun s _ => Decoder.reads_string s) (by simp), _, _, rfl,
      Decoder.reads_string r.description, _, _, rfl, Decoder.reads_variants scope, _, _, rfl,
      takes_examples "correct_examples" r.correct, _, _, rfl, takes_examples "incorrect_examples" r.incorrect, rfl⟩
  exact Record.reads_present (by decide) take

theorem proper_toJson (r : Rule) : r.toJson.Proper := by
  have examples : ∀ es : List Example, ∀ j ∈ examplesSlot es, j.Proper := by
    intro es j member
    rw [examplesSlot] at member
    split at member
    · exact absurd member (by simp)
    · obtain rfl := Option.mem_some_iff.mp member
      refine properItems_iff.mpr fun j member => ?_
      obtain ⟨e, _, rfl⟩ := List.mem_map.mp member
      exact e.proper_toJson
  rw [toJson_eq]
  exact proper_present (by simpa [slots, Json.Proper] using ⟨examples r.correct, examples r.incorrect⟩)

theorem ofText_canonical (r : Rule) : decoder.ofText r.canonical = .ok r :=
  Decoder.ofText_render r.reads_toJson r.proper_toJson

theorem canonical_inj {r r' : Rule} (same : r.canonical = r'.canonical) : r = r' := by
  have read := r.ofText_canonical
  rw [same, r'.ofText_canonical] at read
  exact (Except.ok.inj read).symm

/-- The canonical text of a rule is accepted as the rule, so it tells rules apart, and what was accepted is
written the same way again. -/
theorem canonical_reads_back (r : Rule) :
    decoder.ofText r.canonical = .ok r ∧ (∀ r' : Rule, r.canonical = r'.canonical ↔ r = r') ∧
      ∀ text written, (decoder.ofText text).map canonical = .ok written →
        (decoder.ofText written).map canonical = .ok written := by
  refine ⟨r.ofText_canonical, fun r' => ⟨canonical_inj, congrArg canonical⟩, ?_⟩
  intro text written accepted
  cases read : decoder.ofText text with
  | error message =>
    rw [read] at accepted
    exact absurd accepted (by simp [Except.map])
  | ok r =>
    rw [read] at accepted
    obtain rfl := Except.ok.inj accepted
    rw [r.ofText_canonical]
    rfl

theorem canonical_reads_back_of_defaults :
    let r : Rule := { name := "b", title := some "\"\x01\n", scope := .project, incorrect := [{ code := "let é;" }] }
    let text := "\x7b\"title\": null, \"name\":\"\\u0061\"\x7d"
    let written := "\x7b\"name\":\"a\",\"description\":\"\",\"scope\":\"file\"\x7d"
    (decoder.ofText text).map canonical = .ok written ∧ decoder.ofText r.canonical = .ok r ∧
      (decoder.ofText written).map canonical = .ok written := by
  intro r text written
  have accepted : (decoder.ofText text).map canonical = .ok written := by decide +kernel
  obtain ⟨read, _, again⟩ := canonical_reads_back r
  exact ⟨accepted, read, again text written accepted⟩

end PolicyLint.Rule
