import PolicyLint.Proofs.Json.Decoding
import PolicyLint.Report.Json

/-!
# Verdicts survive their reports

A verdict whose numbers fit their words is read back from its compact text and from a report about it, so
different verdicts have different reports.
-/

namespace PolicyLint

open Json

namespace Finding

def Sized (f : Finding) : Prop := (∀ n ∈ f.startLine, n ≤ 0xFFFFFFFF) ∧ ∀ n ∈ f.endLine, n ≤ 0xFFFFFFFF

def slots (f : Finding) : List (String × Option Json) :=
  [("rule_name", some (.string f.rule)), ("file_path", some (.string f.path)), ("message", some (.string f.message)),
    ("start_line", f.startLine.map .nat), ("end_line", f.endLine.map .nat), ("code", f.code.map .string),
    ("severity", some (.string f.severity.name)), ("confidence", f.confidence.map fun c => .string c.name)]

theorem toJson_eq (f : Finding) : f.toJson = .object (present f.slots) := rfl

theorem reads_toJson {f : Finding} (sized : f.Sized) : decoder.Reads f.toJson f := by
  rw [toJson_eq]
  have severity : Severity.named.lookup f.severity.name = some f.severity := by
    cases f.severity <;> decide
  have confidence : ∀ c : Confidence, Confidence.named.lookup c.name = some c := by
    intro c
    cases c <;> decide
  have take : record.fields.Take f.slots
      (f.rule, f.path, f.message, f.startLine, f.endLine, f.code, f.severity, f.confidence, ()) :=
    ⟨_, _, rfl, Decoder.reads_string f.rule, _, _, rfl, Decoder.reads_string f.path, _, _, rfl,
      Decoder.reads_string f.message, _, _, rfl,
      Field.takes_optional f.startLine (fun n given => Decoder.reads_nat32 (sized.1 n given)) (by simp [Json.nat]),
      _, _, rfl,
      Field.takes_optional f.endLine (fun n given => Decoder.reads_nat32 (sized.2 n given)) (by simp [Json.nat]),
      _, _, rfl, Field.takes_optional f.code (fun s _ => Decoder.reads_string s) (by simp), _, _, rfl,
      Decoder.reads_variants severity, _, _, rfl,
      Field.takes_optional f.confidence (fun c _ => Decoder.reads_variants (confidence c)) (by simp), rfl⟩
  exact Record.reads_present (by decide) take

theorem proper_toJson (f : Finding) : f.toJson.Proper := by
  rw [toJson_eq]
  exact proper_present (by simp [slots, Json.Proper, Json.nat, Decimal.Numeral.proper_ofNat])

end Finding

namespace Failure

def slots (f : Failure) : List (String × Option Json) :=
  [("rule_name", some (.string f.rule)), ("file_path", some (.string f.path)), ("message", some (.string f.message)),
    ("kind", some (.string f.kind.name))]

theorem toJson_eq (f : Failure) : f.toJson = .object (present f.slots) := rfl

theorem reads_toJson (f : Failure) : decoder.Reads f.toJson f := by
  rw [toJson_eq]
  have kind : FailureKind.named.lookup f.kind.name = some f.kind := by
    cases f.kind <;> decide
  have take : record.fields.Take f.slots (f.rule, f.path, f.message, f.kind, ()) :=
    ⟨_, _, rfl, Decoder.reads_string f.rule, _, _, rfl, Decoder.reads_string f.path, _, _, rfl,
      Decoder.reads_string f.message, _, _, rfl, Decoder.reads_variants kind, rfl⟩
  exact Record.reads_present (by decide) take

theorem proper_toJson (f : Failure) : f.toJson.Proper := by
  rw [toJson_eq]
  exact proper_present (by simp [slots, Json.Proper])

end Failure

namespace Verdict

/-- The lines of the findings fit into 32 bits and the counts into 64. -/
structure Sized (v : Verdict) : Prop where
  findings : ∀ f ∈ v.findings, f.Sized
  checks : v.checks ≤ greatestWord
  hits : v.hits ≤ greatestWord
  misses : v.misses ≤ greatestWord
  calls : v.calls ≤ greatestWord
  retries : v.retries ≤ greatestWord
  latency : v.latency ≤ greatestWord

def slots (v : Verdict) : List (String × Option Json) :=
  [("errors", some (.array (v.findings.map Finding.toJson))),
    ("unexpected_errors", some (.array (v.failures.map Failure.toJson))), ("num_tasks", some (.nat v.checks)),
    ("num_cache_hits", some (.nat v.hits)), ("num_cache_misses", some (.nat v.misses)),
    ("num_backend_calls", some (.nat v.calls)), ("num_retries", some (.nat v.retries)),
    ("num_prompt_tokens", some (.nat v.promptTokens.toNat)), ("num_completion_tokens", some (.nat v.completionTokens.toNat)),
    ("latency_ms", some (.nat v.latency))]

theorem toJson_eq (v : Verdict) : v.toJson = .object (present v.slots) := rfl

theorem reads_toJson {v : Verdict} (sized : v.Sized) : decoder.Reads v.toJson v := by
  rw [toJson_eq]
  have findings : (Decoder.list Finding.decoder).Reads (.array (v.findings.map Finding.toJson)) v.findings := by
    apply Decoder.reads_list
    rw [List.forall₂_map_left_iff, List.forall₂_same]
    exact fun f member => Finding.reads_toJson (sized.findings f member)
  have failures : (Decoder.list Failure.decoder).Reads (.array (v.failures.map Failure.toJson)) v.failures := by
    apply Decoder.reads_list
    rw [List.forall₂_map_left_iff, List.forall₂_same]
    exact fun f _ => f.reads_toJson
  have word : ∀ n : UInt64, n.toNat ≤ greatestWord := fun n => Nat.le_of_lt_succ n.toNat_lt
  have take : record.fields.Take v.slots (v.findings, v.failures, v.checks, v.hits, v.misses, v.calls, v.retries,
      v.promptTokens.toNat, v.completionTokens.toNat, v.latency, ()) :=
    ⟨_, _, rfl, findings, _, _, rfl, failures, _, _, rfl, Decoder.reads_nat64 sized.checks, _, _, rfl,
      Decoder.reads_nat64 sized.hits, _, _, rfl, Decoder.reads_nat64 sized.misses, _, _, rfl,
      Decoder.reads_nat64 sized.calls, _, _, rfl, Decoder.reads_nat64 sized.retries, _, _, rfl,
      Decoder.reads_nat64 (word v.promptTokens), _, _, rfl, Decoder.reads_nat64 (word v.completionTokens), _, _, rfl,
      Decoder.reads_nat64 sized.latency, rfl⟩
  have words : { v with
      promptTokens := .ofNat v.promptTokens.toNat
      completionTokens := .ofNat v.completionTokens.toNat } = v := by
    rw [UInt64.ofNat_toNat, UInt64.ofNat_toNat]
  have reads : decoder.Reads (.object (present v.slots)) { v with
      promptTokens := .ofNat v.promptTokens.toNat
      completionTokens := .ofNat v.completionTokens.toNat } := Record.reads_present (by decide) take
  rwa [words] at reads

theorem proper_toJson (v : Verdict) : v.toJson.Proper := by
  rw [toJson_eq]
  have findings : ProperItems (v.findings.map Finding.toJson) := by
    simp [properItems_iff, Finding.proper_toJson]
  have failures : ProperItems (v.failures.map Failure.toJson) := by
    simp [properItems_iff, Failure.proper_toJson]
  exact proper_present (by simp [slots, Json.Proper, Json.nat, Decimal.Numeral.proper_ofNat, findings, failures])

end Verdict

namespace Report

def verdictRecord : Record [Verdict] where
  title := "Report"
  tolerant := true
  fields := .cons (.required "result" Verdict.decoder) .nil

def verdictDecoder : Json.Decoder Verdict := verdictRecord.decoder fun (v, ()) => v

variable {v : Verdict}

theorem reads_verdictJson (sized : v.Sized) (files : Nat) : verdictDecoder.Reads (verdictJson v files) v := by
  have take : verdictRecord.fields.Take [("result", some v.toJson)] (v, ()) :=
    ⟨_, _, rfl, Verdict.reads_toJson sized, rfl⟩
  apply Record.reads_decoder (by decide) take (by simp)
  · intro m member
    rcases List.mem_cons.mp member with rfl | result
    · exact Or.inr ⟨rfl, by simp [verdictRecord, Fields.names, Field.required]⟩
    · rw [List.mem_singleton.mp result]
      exact Or.inl List.mem_cons_self
  · intro name j member
    obtain ⟨rfl, rfl⟩ := by simpa using member
    simp

theorem proper_verdictJson (v : Verdict) (files : Nat) : (verdictJson v files).Proper := by
  simp [verdictJson, Json.Proper, ProperMembers, Json.nat, Decimal.Numeral.proper_ofNat, v.proper_toJson]

theorem ofText_write (sized : v.Sized) (files : Nat) :
    verdictDecoder.ofText (write (verdictJson v files)) = .ok v :=
  Decoder.ofText_renderPretty (reads_verdictJson sized files) (proper_verdictJson v files)

theorem root_write (v : Verdict) (files : Nat) :
    (Document.ofChars (write (verdictJson v files)).toList).root.json? =
      some (.object [("num_files", .nat files), ("result", v.toJson.sorted)]) := by
  have inOrder : (verdictJson v files).sorted =
      .object [("num_files", .nat files), ("result", v.toJson.sorted)] := by
    have before : ¬"result" < "num_files" := by decide
    simp [verdictJson, Json.sorted, sortedMembers, sortMembers, sortMembers.insertMember, Json.nat, before]
  rw [write, renderPretty, String.toList_ofList, (root_pretty (proper_verdictJson v files).sorted 0).1, inOrder]

end Report

namespace Verdict

theorem survives_reports {v : Verdict} (sized : v.Sized) (files : Nat) :
    decoder.ofText v.toJson.render = .ok v ∧
      Report.verdictDecoder.ofText (Report.write (Report.verdictJson v files)) = .ok v ∧
      (∃ members j, (Document.ofChars (Report.write (Report.verdictJson v files)).toList).root.json? =
        some (.object members) ∧ members.lookup "result" = some j ∧ decoder.ofJson j = .ok v) ∧
      ∀ v' : Verdict, v'.Sized →
        Report.write (Report.verdictJson v' files) = Report.write (Report.verdictJson v files) → v' = v := by
  refine ⟨Decoder.ofText_render (reads_toJson sized) v.proper_toJson, Report.ofText_write sized files,
    ⟨_, v.toJson.sorted, Report.root_write v files, rfl, Decoder.ofJson_sorted (reads_toJson sized)⟩, ?_⟩
  intro v' sized' same
  have reads := Report.ofText_write sized' files
  rw [same, Report.ofText_write sized files] at reads
  exact (Except.ok.inj reads).symm

theorem survives_reports_of_mixed : ∃ v : Verdict,
    (∃ f ∈ v.findings, f.startLine = some 0xFFFFFFFF ∧ f.code = none ∧ f.confidence = some .low) ∧
      v.latency = greatestWord ∧ decoder.ofText v.toJson.render = .ok v ∧
      Report.verdictDecoder.ofText (Report.write (Report.verdictJson v 7)) = .ok v := by
  let v : Verdict :=
    { findings := [
        { rule := "a\n", path := "b\"", message := "é\\", startLine := some 0xFFFFFFFF, confidence := some .low },
        { rule := "", path := "c", message := "", endLine := some 0, code := some "", severity := .warning }]
      failures := [⟨"a", "b", "\t", .cancelled⟩]
      checks := 1
      latency := greatestWord }
  have sized : v.Sized := by
    constructor <;> simp [v, Finding.Sized, greatestWord]
  obtain ⟨compact, report, -⟩ := survives_reports sized 7
  exact ⟨v, by simp [v], rfl, compact, report⟩

end Verdict

end PolicyLint
