import PolicyLint.Finding
import PolicyLint.Rule.Basic
import PolicyLint.SourceFile

/-!
# Completions

A completion is read as a JSON payload that lists violations. The payload may stand in a fenced block
or between prose. A completion that does not hold one is refused, it never reads as an empty list.
-/

namespace PolicyLint

structure Violation where
  line : Option Nat := none
  endLine : Option Nat := none
  message : String
  code : Option String := none
  confidence : Option String := none
  deriving DecidableEq, Repr

namespace Violation

open Json in
def record : Record [Option Nat, Option Nat, String, Option String, Option String] where
  title := "Violation"
  tolerant := true
  fields :=
    .cons (.optional "line" .nat32) <| .cons (.optional "end_line" .nat32) <|
    .cons (.required "message" .string) <| .cons (.optional "code" .string) <|
    .cons (.optional "confidence" .string) .nil

def decoder : Json.Decoder Violation :=
  record.decoder fun (line, endLine, message, code, confidence, ()) =>
    { line, endLine, message, code, confidence }

/-- The finding that a violation of a rule in a file amounts to. A span needs a first line; a blank
snippet and an unknown mark of confidence count as absent. -/
def toFinding (path rule : String) (v : Violation) : Finding :=
  let finding : Finding := { rule, path, message := Text.trimmed v.message }
  let finding :=
    match v.line with
    | some line => finding.withLines line (v.endLine.getD line)
    | none => finding
  { finding with
    code := v.code.filter fun code => !Text.isBlankText code
    confidence := v.confidence.bind Confidence.ofText? }

end Violation

namespace Payload

open Json in
def record : Record [List Violation] where
  title := "CompletionPayload"
  tolerant := true
  fields := .cons (.required "violations" (.list Violation.decoder)) .nil

def decoder : Json.Decoder (List Violation) :=
  record.decoder fun (violations, ()) => violations

def ticks : List Char := ['`', '`', '`']

def isTagChar (c : Char) : Bool := c.isAlphanum || c = '_' || c = '-'

/-- What follows the line of an opening fence at the start of a text. -/
def afterFence? (cs : List Char) : Option (List Char) :=
  match cs with
  | '`' :: '`' :: '`' :: rest =>
    match (rest.dropWhile isTagChar).dropWhile fun c => c = ' ' || c = '\t' with
    | '\n' :: body => some body
    | '\r' :: '\n' :: body => some body
    | _ => none
  | _ => none

/-- What stands before the first three backticks in a row. -/
def beforeTicks? : List Char → Option (List Char)
  | [] => none
  | c :: rest =>
    if ticks.isPrefixOf (c :: rest) then some [] else (beforeTicks? rest).map (c :: ·)

def fenced? : List Char → Option (List Char)
  | [] => none
  | c :: rest =>
    match (afterFence? (c :: rest)).bind beforeTicks? with
    | some body => some body
    | none => fenced? rest

/-- The characters from the first opening to the last closing brace. -/
def braced (cs : List Char) : List Char :=
  ((cs.dropWhile (· ≠ '\x7b')).reverse.dropWhile (· ≠ '\x7d')).reverse

/-- The payload of a completion: the body of the first fenced block, else what stands in braces, else
all of it. -/
def extract (cs : List Char) : List Char :=
  let cs := Text.trim cs
  match fenced? cs with
  | some body => Text.trim body
  | none => if (braced cs).isEmpty then cs else braced cs

end Payload

/-- The findings that a completion reports about a rule and a file, or why it cannot be read. -/
def readCompletion (text path rule : String) : Except String (List Finding) :=
  let payload := Payload.extract text.toList
  match Payload.decoder.ofChars payload with
  | .ok violations => .ok (violations.map (Violation.toFinding path rule))
  | .error fault => .error ("Malformed completion: " ++ fault.message payload)

end PolicyLint
