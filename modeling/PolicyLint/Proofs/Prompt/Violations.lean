import PolicyLint.Proofs.Json.Members
import PolicyLint.Proofs.Prompt.Extraction

/-!
# From violations to findings

A payload is read however it is written: with blanks between its parts, its strings spelled in any way, and the members
of its objects in any order. Each violation in it amounts to one finding.
-/

namespace PolicyLint

open Json (Carries WrittenAs)

/-! ### What findings tell of violations -/

def Text.folded (s : String) : String := String.ofList ((Text.trim s.toList).map Char.toLower)

/-- What a finding tells of a violation of a rule in a file. -/
structure Finding.Mirrors (f : Finding) (v : Violation) (path rule : String) : Prop where
  rule : f.rule = rule
  path : f.path = path
  severity : f.severity = .error
  message : f.message = Text.trimmed v.message
  spanned : ∀ line, v.line = some line → f.startLine = some line ∧ f.endLine = some (max line (v.endLine.getD line))
  spanless : v.line = none → f.startLine = none ∧ f.endLine = none
  code : ∀ code, f.code = some code ↔ v.code = some code ∧ ∃ c ∈ code.toList, Text.isBlank c = false
  confidence : ∀ level : Confidence,
    f.confidence = some level ↔ ∃ mark, v.confidence = some mark ∧ Text.folded mark = level.name
  ends : f.startLine.isSome = f.endLine.isSome
  ordered : ∀ first last, f.startLine = some first → f.endLine = some last → first ≤ last

theorem Confidence.ofText?_eq_some_iff {s : String} {level : Confidence} :
    Confidence.ofText? s = some level ↔ Text.folded s = level.name := by
  show Confidence.named.lookup (Text.folded s) = some level ↔ _
  generalize Text.folded s = word
  constructor
  · intro found
    obtain ⟨before, behind, shape, _⟩ := List.lookup_eq_some_iff.mp found
    have member : (word, level) ∈ Confidence.named := by simp [shape]
    simp only [Confidence.named, List.mem_cons, Prod.mk.injEq, List.not_mem_nil, or_false] at member
    rcases member with ⟨rfl, rfl⟩ | ⟨rfl, rfl⟩ | ⟨rfl, rfl⟩ <;> rfl
  · rintro rfl
    cases level <;> rfl

theorem Text.isBlankText_eq_false_iff {s : String} : Text.isBlankText s = false ↔ ∃ c ∈ s.toList, Text.isBlank c = false := by
  simp [Text.isBlankText]

namespace Violation

variable (v : Violation) (path rule : String)

theorem startLine_toFinding : (v.toFinding path rule).startLine = v.line := by
  unfold toFinding
  cases v.line <;> rfl

theorem endLine_toFinding :
    (v.toFinding path rule).endLine = v.line.map fun line => max line (v.endLine.getD line) := by
  unfold toFinding
  cases v.line with
  | none => rfl
  | some line => exact congrArg some (Nat.max_comm _ _)

theorem severity_toFinding : (v.toFinding path rule).severity = .error := by
  unfold toFinding
  cases v.line <;> rfl

theorem mirrors_toFinding : (v.toFinding path rule).Mirrors v path rule := by
  obtain ⟨file, name, message⟩ := v.tells_toFinding path rule
  have start := v.startLine_toFinding path rule
  have stop := v.endLine_toFinding path rule
  refine ⟨name, file, v.severity_toFinding path rule, message, fun line given => ?_, fun absent => ?_, fun code => ?_,
    fun level => ?_, ?_, fun first last begins ends => ?_⟩
  · rw [start, stop, given]
    exact ⟨rfl, rfl⟩
  · rw [start, stop, absent]
    exact ⟨rfl, rfl⟩
  · have kept : (v.toFinding path rule).code = v.code.filter fun code => !Text.isBlankText code := by unfold toFinding; rfl
    rw [kept, Option.filter_eq_some_iff, ← Text.isBlankText_eq_false_iff]
    simp
  · have marked : (v.toFinding path rule).confidence = v.confidence.bind Confidence.ofText? := by unfold toFinding; rfl
    rw [marked, Option.bind_eq_some_iff]
    simp only [Confidence.ofText?_eq_some_iff]
  · rw [start, stop, Option.isSome_map]
  · rw [start] at begins
    rw [stop, begins] at ends
    obtain rfl := Option.some.inj ends
    exact Nat.le_max_left _ _

end Violation

/-! ### Payloads -/

def Violation.Small (v : Violation) : Prop := (∀ n ∈ v.line, n ≤ 0xFFFFFFFF) ∧ ∀ n ∈ v.endLine, n ≤ 0xFFFFFFFF

/-- The value is an object with the parts of the violation. Parts that are absent are left out or null. -/
structure Violation.EncodedBy (v : Violation) (members : List (String × Json)) : Prop where
  distinct : (members.map (·.1)).Nodup
  line : Carries members "line" (v.line.map .nat)
  endLine : Carries members "end_line" (v.endLine.map .nat)
  message : Carries members "message" (some (.string v.message))
  code : Carries members "code" (v.code.map .string)
  confidence : Carries members "confidence" (v.confidence.map .string)

structure Payload.EncodedBy (violations : List Violation) (members : List (String × Json)) (items : List Json) : Prop where
  distinct : (members.map (·.1)).Nodup
  listed : ("violations", .array items) ∈ members
  each : List.Forall₂ (fun (v : Violation) item => ∃ ms, item = Json.object ms ∧ v.EncodedBy ms) violations items

theorem Violation.reads_decoder {v : Violation} (small : v.Small) {members : List (String × Json)}
    (encoded : v.EncodedBy members) : Violation.decoder.Reads (.object members) v := by
  have natural : ∀ {name : String} {o : Option Nat}, (∀ n ∈ o, n ≤ 0xFFFFFFFF) → Carries members name (o.map .nat) →
      (Json.Field.optional name .nat32).Filled members o := fun fits carries =>
    Json.Field.filled_optional encoded.distinct carries (fun n given => Json.Decoder.reads_nat32 (fits n given)) nofun
  have text : ∀ {name : String} {o : Option String}, Carries members name (o.map .string) →
      (Json.Field.optional name .string).Filled members o := fun carries =>
    Json.Field.filled_optional encoded.distinct carries (fun s _ => Json.Decoder.reads_string s) nofun
  have message : (Json.Field.required "message" .string).Filled members v.message :=
    Json.Field.filled_required encoded.distinct encoded.message (Json.Decoder.reads_string v.message)
  have filled : record.fields.Filled members (v.line, v.endLine, v.message, v.code, v.confidence, ()) :=
    ⟨natural small.1 encoded.line, natural small.2 encoded.endLine, message, text encoded.code, text encoded.confidence, trivial⟩
  exact Json.Record.reads_filled (by decide) rfl encoded.distinct filled

theorem Payload.reads_decoder {violations : List Violation} (small : ∀ v ∈ violations, v.Small)
    {members : List (String × Json)} {items : List Json} (encoded : EncodedBy violations members items) :
    Payload.decoder.Reads (.object members) violations := by
  have each : List.Forall₂ Violation.decoder.Reads items violations := by
    have both := (List.forall₂_and_left violations items).mpr ⟨small, encoded.each⟩
    exact (both.imp fun _ _ ⟨fits, _, same, encodes⟩ => same ▸ Violation.reads_decoder fits encodes).flip
  have filled : record.fields.Filled members (violations, ()) :=
    ⟨Json.Field.filled_required encoded.distinct encoded.listed (Json.Decoder.reads_list each), trivial⟩
  exact Json.Record.reads_filled (by decide) rfl encoded.distinct filled

/-- From a text of a payload as many findings are read as it lists violations, one for each and in their order, however
the payload is written. -/
theorem readCompletion_of_violations {violations : List Violation} (small : ∀ v ∈ violations, v.Small)
    {members : List (String × Json)} {items : List Json} (encoded : Payload.EncodedBy violations members items)
    {cs : List Char} (written : WrittenAs (.object members) cs) (path rule : String) :
    ∃ findings, readCompletion (String.ofList cs) path rule = .ok findings ∧ findings.length = violations.length ∧
      List.Forall₂ (fun (v : Violation) (f : Finding) => f.Mirrors v path rule) violations findings := by
  obtain ⟨t, written, means⟩ := written
  cases means with
  | @object parts _ mean =>
    obtain ⟨before, object, behind, rfl, blank, text, blank'⟩ := Payload.objectText_of_written written
    have payload := Payload.extract_of_prose text (.of_blank blank) (.of_blank blank')
    have decoded : Payload.decoder.ofChars object = .ok violations :=
      Json.Decoder.ofChars_of_writtenAs (Payload.reads_decoder small encoded) ⟨_, text.written, .object mean⟩
    refine ⟨violations.map (Violation.toFinding path rule), ?_, List.length_map _, ?_⟩
    · rw [readCompletion_ofList, payload, decoded]
    · rw [List.forall₂_map_right_iff, List.forall₂_same]
      exact fun v _ => v.mirrors_toFinding path rule

/-- A span that ends before it starts, with a blank snippet, and an end without a start. -/
theorem readCompletion_of_violations_of_two :
    let violations : List Violation :=
      [{ line := some 7, endLine := some 5, message := " bad\n", code := some "  ", confidence := some "HIGH " },
        { endLine := some 3, message := "worse" }]
    let items : List Json :=
      [.object [("message", .string " bad\n"), ("line", .nat 7), ("end_line", .nat 5), ("code", .string "  "),
          ("confidence", .string "HIGH ")],
        .object [("end_line", .nat 3), ("line", .null), ("message", .string "worse")]]
    let members : List (String × Json) := [("violations", .array items)]
    (∀ v ∈ violations, v.Small) ∧ Payload.EncodedBy violations members items ∧
      WrittenAs (.object members) (Json.object members).compact ∧
      ∃ findings, readCompletion (String.ofList (Json.object members).compact) "a.ts" "no-let" = .ok findings ∧
        findings.length = 2 ∧
        List.Forall₂ (fun (v : Violation) (f : Finding) => f.Mirrors v "a.ts" "no-let") violations findings := by
  intro violations items members
  have small : ∀ v ∈ violations, v.Small := by simp [violations, Violation.Small]
  have encoded : Payload.EncodedBy violations members items := by
    refine ⟨by simp [members], List.mem_singleton.mpr rfl, .cons ⟨_, rfl, ?_⟩ (.cons ⟨_, rfl, ?_⟩ .nil)⟩
    · constructor <;> simp [Carries]
    · constructor <;> simp [Carries]
  have number : ∀ n, (Json.nat n).Proper := Decimal.Numeral.proper_ofNat
  have proper : (Json.object members).Proper := by
    simp [members, items, Json.Proper, Json.ProperMembers, Json.ProperItems, number]
  have written := Json.writtenAs_compact proper
  exact ⟨small, encoded, written, readCompletion_of_violations small encoded written "a.ts" "no-let"⟩

end PolicyLint
