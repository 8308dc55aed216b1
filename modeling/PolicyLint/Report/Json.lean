import PolicyLint.Decimal.Shortest
import PolicyLint.Evaluation.Basic
import PolicyLint.Json.Printer
import PolicyLint.Run.DryRun

/-!
# JSON reports

Reports for programs, with the members of every object in ascending order.
-/

namespace PolicyLint

def Score.toJson (s : Score) : Json :=
  .object
    [("num_rules", .nat s.rules), ("num_files", .nat s.files),
      ("num_true_positives", .nat s.truePositives), ("num_false_positives", .nat s.falsePositives),
      ("num_true_negatives", .nat s.trueNegatives),
      ("num_false_negatives", .nat s.falseNegatives), ("num_unexpected_errors", .nat s.failures)]

namespace Report

def measureJson : Option Decimal.Magnitude → Json
  | none => .null
  | some x => .number (Decimal.Layout.double.numeral Decimal.binary64 x)

def scoreJson (s : Score) : Json :=
  .object
    [("counts", s.toJson), ("precision", measureJson s.precision),
      ("recall", measureJson s.sensitivity), ("accuracy", measureJson s.accuracy),
      ("f1", measureJson s.f1)]

def verdictJson (v : Verdict) (files : Nat) : Json :=
  .object [("num_files", .nat files), ("result", v.toJson)]

def dryRunJson (d : DryRun) (files : Nat) : Json :=
  .object [("num_files", .nat files), ("num_tasks", .nat d.checks), ("dry_run", d.toJson)]

def evaluationJson (e : Evaluation) : Json :=
  .object
    [("rules", .object (e.rules.map fun r => (r.1, scoreJson r.2))),
      ("total", scoreJson e.total),
      ("errors", .array (e.verdict.findings.map Finding.toJson)),
      ("unexpected_errors", .array (e.verdict.failures.map Failure.toJson))]

def write (report : Json) : String := report.sorted.renderPretty

end Report

end PolicyLint
