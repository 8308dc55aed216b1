import PolicyLint.Proofs.Json.Acceptance
import PolicyLint.Run.Check

/-!
# The shape of accepted completions

A completion is accepted only if its payload lists violations, each with a message, and then it is as many
findings as the list has items. Any other completion is a fault that may pass. A payload and a violation may
stand as an array of the values of their fields.
-/

namespace PolicyLint

open Json (Tree)

/-! ### What a payload is part of -/

theorem Text.trim_within (cs : List Char) : Text.trim cs <:+: cs := by
  have left : Text.trimLeft cs <:+ cs := List.dropWhile_suffix _
  have right : Text.trim cs <+: Text.trimLeft cs := by
    rw [Text.trim, Text.trimRight, ← List.reverse_suffix, List.reverse_reverse]
    exact List.dropWhile_suffix _
  exact right.isInfix.trans left.isInfix

namespace Payload

theorem afterFence?_within {cs body : List Char} (found : afterFence? cs = some body) : body <:+ cs := by
  unfold afterFence? at found
  split at found
  · rename_i rest
    have tag : (rest.dropWhile isTagChar).dropWhile (fun c => c = ' ' || c = '\t') <:+ '`' :: '`' :: '`' :: rest :=
      (((List.dropWhile_suffix _).trans (List.dropWhile_suffix _)).trans (List.suffix_append ['`', '`', '`'] rest))
    split at found
    · rename_i line
      obtain rfl := Option.some.inj found
      rw [line] at tag
      exact (List.suffix_cons _ _).trans tag
    · rename_i line
      obtain rfl := Option.some.inj found
      rw [line] at tag
      exact (List.suffix_append ['\r', '\n'] _).trans tag
    · cases found
  · cases found

theorem beforeTicks?_within {cs body : List Char} (found : beforeTicks? cs = some body) : body <+: cs := by
  induction cs generalizing body with
  | nil => cases found
  | cons c rest ih =>
    rw [beforeTicks?] at found
    split at found
    · obtain rfl := Option.some.inj found
      exact List.nil_prefix
    · obtain ⟨inner, later, rfl⟩ := Option.map_eq_some_iff.mp found
      exact (List.cons_prefix_cons).mpr ⟨rfl, ih later⟩

theorem fenced?_within {cs body : List Char} (found : fenced? cs = some body) : body <:+: cs := by
  induction cs with
  | nil => cases found
  | cons c rest ih =>
    rw [fenced?] at found
    split at found
    · rename_i here
      obtain rfl := Option.some.inj found
      obtain ⟨block, opened, closed⟩ := Option.bind_eq_some_iff.mp here
      exact (beforeTicks?_within closed).isInfix.trans (afterFence?_within opened).isInfix
    · exact (ih found).trans (List.suffix_cons c rest).isInfix

theorem braced_within (cs : List Char) : braced cs <:+: cs := by
  have right : braced cs <+: cs.dropWhile (· ≠ '\x7b') := by
    rw [braced, ← List.reverse_suffix, List.reverse_reverse]
    exact List.dropWhile_suffix _
  exact right.isInfix.trans (List.dropWhile_suffix _).isInfix

theorem extract_within (cs : List Char) : extract cs <:+: cs := by
  unfold extract
  dsimp only
  split
  · rename_i body found
    exact ((Text.trim_within body).trans (fenced?_within found)).trans (Text.trim_within cs)
  · split
    · exact Text.trim_within cs
    · exact (braced_within _).trans (Text.trim_within cs)

end Payload

/-! ### The shapes -/

/-- A violation with this message: an object that has it, or an array with it in the third place. -/
def Violation.Reports (t : Tree) (message : String) : Prop :=
  (∃ value, t.Has "message" value ∧ value.Denotes message) ∨
    ∃ line endLine value rest, t = .array (line :: endLine :: value :: rest) ∧ value.Denotes message

/-- A list of violations: an object that has it, or an array of nothing else. -/
def Payload.Lists (t : Tree) (items : List Tree) : Prop :=
  t.Has "violations" (.array items) ∨ t = .array [.array items]

theorem Violation.thorough_decoder : Violation.decoder.Thorough := by
  have fields : Violation.record.fields.Thorough :=
    ⟨(Json.Decoder.thorough_natUpTo _ _).optional, (Json.Decoder.thorough_natUpTo _ _).optional,
      Json.Decoder.thorough_string, Json.Decoder.thorough_string.optional, Json.Decoder.thorough_string.optional,
      trivial⟩
  exact Json.Record.thorough_decoder fields _

theorem Payload.thorough_decoder : Payload.decoder.Thorough := by
  have fields : Payload.record.fields.Thorough := ⟨Violation.thorough_decoder.list, trivial⟩
  exact Json.Record.thorough_decoder fields _

theorem denotes_of_string {source : Json.Source} {node : Json.Node} {text : String} {t : Tree}
    (decoded : Json.Decoder.string source node = .ok text) (depicts : node.Depicts t) : t.Denotes text := by
  obtain ⟨start, stop, rfl⟩ := Json.Decoder.string_ok decoded
  cases depicts with
  | string denotes => exact ⟨_, rfl, denotes text rfl⟩

theorem has_of_memberOf {start : Nat} {members : List (Json.Key × Json.Node)} {ending : Except Json.Cut Nat} {t : Tree}
    (depicts : (Json.Node.object start members ending).Depicts t) {name : String} {node : Json.Node}
    (member : Json.MemberOf members name node) : ∃ value, t.Has name value ∧ node.Depicts value := by
  obtain ⟨key, member, named⟩ := member
  cases depicts with
  | object depict =>
    obtain ⟨body, value, there, denotes, depicts⟩ := depict.mem member named
    exact ⟨value, ⟨_, body, rfl, there, denotes⟩, depicts⟩

theorem Violation.reports_of_placed {source : Json.Source} {start : Nat} {nodes : List Json.Node}
    {ending : Except Json.Cut Nat} {line endLine : Option Nat} {message : String} {code confidence : Option String} {t : Tree}
    (placed : Violation.record.fields.Placed source nodes (line, endLine, message, code, confidence, ()))
    (depicts : (Json.Node.array start nodes ending).Depicts t) : Violation.Reports t message := by
  cases depicts with | array depict =>
  match nodes, placed, depict with
  | [], ⟨_, _, missing, _⟩, _ => cases missing
  | [_], ⟨_, _, missing, _⟩, _ => cases missing
  | [_, _], ⟨_, _, missing, _⟩, _ => cases missing
  | _ :: _ :: _ :: _, ⟨_, _, decoded, _⟩, .cons _ (.cons _ (.cons depicts _)) =>
    exact Or.inr ⟨_, _, _, _, rfl, denotes_of_string decoded depicts⟩

theorem Violation.reports {source : Json.Source} {node : Json.Node} {v : Violation} {t : Tree}
    (decoded : Violation.decoder source node = .ok v) (depicts : node.Depicts t) : Violation.Reports t v.message := by
  obtain ⟨⟨line, endLine, message, code, confidence, ⟨⟩⟩, read, rfl⟩ := Json.Record.decoder_ok decoded
  rcases Json.Record.decode_cases read with ⟨start, members, stop, rfl, named⟩ | ⟨start, nodes, stop, rfl, placed⟩
  · obtain ⟨_, _, here, _⟩ := named
    rcases here with ⟨node, member, decoded⟩ | absent
    · obtain ⟨value, has, depicts⟩ := has_of_memberOf depicts member
      exact Or.inl ⟨value, has, denotes_of_string decoded depicts⟩
    · cases absent
  · exact Violation.reports_of_placed placed depicts

theorem Violation.forall₂_reports {source : Json.Source} {nodes : List Json.Node} {violations : List Violation}
    (read : List.Forall₂ (fun node v => Violation.decoder source node = .ok v) nodes violations) {items : List Tree}
    (depict : Json.ItemsDepict nodes items) :
    List.Forall₂ (fun item v => Violation.Reports item v.message) items violations := by
  induction read generalizing items with
  | nil =>
    cases depict
    exact .nil
  | cons decoded _ ih =>
    cases depict with
    | cons depicts depict => exact .cons (Violation.reports decoded depicts) (ih depict)

theorem Payload.lists {source : Json.Source} {node : Json.Node} {violations : List Violation} {t : Tree}
    (decoded : Payload.decoder source node = .ok violations) (depicts : node.Depicts t) :
    ∃ items, Payload.Lists t items ∧ List.Forall₂ (fun item v => Violation.Reports item v.message) items violations := by
  obtain ⟨⟨violations, ⟨⟩⟩, read, rfl⟩ := Json.Record.decoder_ok decoded
  have listed : ∀ {node : Json.Node} {value : Tree}, Violation.decoder.list source node = .ok violations →
      node.Depicts value → ∃ items, value = .array items ∧
        List.Forall₂ (fun item v => Violation.Reports item v.message) items violations := by
    intro node value decoded depicts
    obtain ⟨start, nodes, stop, rfl, read⟩ := Json.Decoder.list_ok decoded
    cases depicts with
    | array depict => exact ⟨_, rfl, Violation.forall₂_reports read depict⟩
  rcases Json.Record.decode_cases read with ⟨start, members, stop, rfl, named⟩ | ⟨start, nodes, stop, rfl, placed⟩
  · rcases named.1 with ⟨node, member, decoded⟩ | absent
    · obtain ⟨value, has, depicts⟩ := has_of_memberOf depicts member
      obtain ⟨items, rfl, reports⟩ := listed decoded depicts
      exact ⟨items, Or.inl has, reports⟩
    · cases absent
  · cases depicts with | array depict =>
    match nodes, placed, depict with
    | [], ⟨missing, _⟩, _ => cases missing
    | [node], ⟨decoded, _⟩, .cons depicts .nil =>
      obtain ⟨items, rfl, reports⟩ := listed decoded depicts
      exact ⟨items, Or.inr rfl, reports⟩
    | _ :: _ :: _, ⟨_, surplus⟩, _ => cases surplus

/-! ### Completions -/

def Finding.Tells (f : Finding) (path rule message : String) : Prop :=
  f.path = path ∧ f.rule = rule ∧ f.message = Text.trimmed message

theorem Violation.tells_toFinding (path rule : String) (v : Violation) :
    (v.toFinding path rule).Tells path rule v.message := by
  unfold Violation.toFinding
  dsimp only
  split <;> exact ⟨rfl, rfl, rfl⟩

/-- The findings that a task gets from a completion are the violations in its payload, one by one. What is no such
payload is never read as an empty list: it counts as a fault that may pass. -/
theorem readCompletion_shape (task : Task) (completion : Completion) (attempts left : Nat) :
    (∃ (findings : List Finding) (tree : Tree) (items : List Tree),
      readCompletion completion.text task.file.path task.rule.name = .ok findings ∧
      Conclusion.ofOutcome task attempts left (.ok completion) = .judged findings ∧
      tree.Written (Payload.extract completion.text.toList) ∧
      Payload.extract completion.text.toList <:+: completion.text.toList ∧ Payload.Lists tree items ∧
      List.Forall₂
        (fun item f => ∃ message, Violation.Reports item message ∧ f.Tells task.file.path task.rule.name message)
        items findings) ∨
    ∃ why, readCompletion completion.text task.file.path task.rule.name = .error ("Malformed completion: " ++ why) ∧
      Conclusion.ofOutcome task attempts left (.ok completion) =
        .ofTransient ("Malformed completion: " ++ why) attempts left := by
  cases read : Payload.decoder.ofChars (Payload.extract completion.text.toList) with
  | error fault =>
    have refused : readCompletion completion.text task.file.path task.rule.name =
        .error ("Malformed completion: " ++ fault.message (Payload.extract completion.text.toList)) := by
      simp only [readCompletion, read]
    exact Or.inr ⟨_, refused, by simp only [Conclusion.ofOutcome, refused]⟩
  | ok violations =>
    have accepted : readCompletion completion.text task.file.path task.rule.name =
        .ok (violations.map (Violation.toFinding task.file.path task.rule.name)) := by
      simp only [readCompletion, read]
    obtain ⟨tree, root, written, depicts, decoded⟩ := Payload.thorough_decoder.written read
    obtain ⟨items, lists, reports⟩ := Payload.lists decoded depicts
    refine Or.inl ⟨_, tree, items, accepted, by simp only [Conclusion.ofOutcome, accepted], written,
      Payload.extract_within _, lists, ?_⟩
    rw [List.forall₂_map_right_iff]
    exact reports.imp fun item v reported => ⟨v.message, reported, v.tells_toFinding _ _⟩

/-- It is not so that an accepted payload is an object and lists objects: the text of two arrays, one in the
other, is read as no violations. -/
theorem not_object_of_accepted :
    ¬∀ (text path rule : String) (findings : List Finding), readCompletion text path rule = .ok findings →
      ∃ (tree : Tree) (items : List Tree), tree.Written (Payload.extract text.toList) ∧
        tree.Has "violations" (.array items) ∧
        (∀ item ∈ items, ∃ (value : Tree) (message : String), item.Has "message" value ∧ value.Denotes message) ∧
        findings.length = items.length := by
  intro documented
  have accepted : readCompletion "[[]]" "a.rs" "rule" = .ok [] := by decide +kernel
  obtain ⟨tree, items, ⟨ls, lexed, spaced⟩, ⟨members, body, rfl, _⟩, _⟩ := documented _ _ _ _ accepted
  have payload : Payload.extract "[[]]".toList = ['[', '[', ']', ']'] := by decide +kernel
  rw [payload] at spaced
  cases lexed with | object inner =>
  cases spaced with
  | blank space _ => exact absurd space (by decide)

end PolicyLint
