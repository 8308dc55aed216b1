import PolicyLint.Text.Blank
import PolicyLint.Json.Decoder
import PolicyLint.Json.Printer

/-!
# Findings

A `Finding` is one reported violation of a rule. A span has both of its ends or neither, and its end
does not precede its start, when findings are built by `withLines`.
-/

namespace PolicyLint

inductive Severity where
  | error
  | warning
  deriving DecidableEq, Repr, Inhabited

inductive Confidence where
  | low
  | medium
  | high
  deriving DecidableEq, Repr

/-- One reported violation. -/
structure Finding where
  rule : String
  path : String
  message : String
  startLine : Option Nat := none
  endLine : Option Nat := none
  code : Option String := none
  severity : Severity := .error
  confidence : Option Confidence := none
  deriving DecidableEq, Repr

namespace Severity

def name : Severity → String
  | error => "error"
  | warning => "warning"

def named : List (String × Severity) := [("error", error), ("warning", warning)]

end Severity

namespace Confidence

def name : Confidence → String
  | low => "low"
  | medium => "medium"
  | high => "high"

def named : List (String × Confidence) := [("low", low), ("medium", medium), ("high", high)]

/-- Reads a mark of confidence, blanks around it and the case of its letters set aside. -/
def ofText? (s : String) : Option Confidence :=
  named.lookup (String.ofList ((Text.trim s.toList).map Char.toLower))

end Confidence

namespace Finding

/-- The finding with a span; an end before the start is moved to it. -/
def withLines (f : Finding) (first last : Nat) : Finding :=
  { f with startLine := some first, endLine := some (max last first) }

open Json in
def toJson (f : Finding) : Json :=
  .objectOf
    [field "rule_name" (.string f.rule),
      field "file_path" (.string f.path),
      field "message" (.string f.message),
      field? "start_line" (f.startLine.map .nat),
      field? "end_line" (f.endLine.map .nat),
      field? "code" (f.code.map .string),
      field "severity" (.string f.severity.name),
      field? "confidence" (f.confidence.map fun c => .string c.name)]

open Json in
def record : Record [String, String, String, Option Nat, Option Nat, Option String, Severity,
    Option Confidence] where
  title := "LintError"
  tolerant := true
  fields :=
    .cons (.required "rule_name" .string) <| .cons (.required "file_path" .string) <|
    .cons (.required "message" .string) <| .cons (.optional "start_line" .nat32) <|
    .cons (.optional "end_line" .nat32) <| .cons (.optional "code" .string) <|
    .cons (.withDefault "severity" (.variants Severity.named) .error) <|
    .cons (.optional "confidence" (.variants Confidence.named)) .nil

def decoder : Json.Decoder Finding :=
  record.decoder fun (rule, path, message, startLine, endLine, code, severity, confidence, ()) =>
    { rule, path, message, startLine, endLine, code, severity, confidence }

end Finding

end PolicyLint
