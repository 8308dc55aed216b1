import PolicyLint.Decimal.Shortest
import PolicyLint.Evaluation.Basic
import PolicyLint.Run.DryRun

/-!
# Text reports

Reports for readers. The report of a verdict groups the findings by file: each run of findings in one
file stands under a header with its path.
-/

namespace PolicyLint.Report

def line (s : String) : String := s ++ "\n"

/-- Blanks or other marks that bring a text to a width. -/
def padding (mark : Char) (width : Nat) (s : String) : String :=
  String.ofList (List.replicate (width - s.length) mark)

def atLeft (width : Nat) (s : String) : String := s ++ padding ' ' width s

def atRight (width : Nat) (s : String) : String := padding ' ' width s ++ s

/-! ### Verdicts -/

def location (f : Finding) : String :=
  match f.startLine, f.endLine with
  | some first, some last =>
    if last = first then toString first else toString first ++ "-" ++ toString last
  | some first, none => toString first
  | none, _ => "-"

/-- A finding without its path, and its code if there is any. -/
def findingText (f : Finding) : String :=
  line ("  " ++ location f ++ " " ++ f.severity.name ++ " [" ++ f.rule ++ "]: " ++ f.message) ++
    match f.code with
    | some code => line ("      " ++ Text.trimmed code)
    | none => ""

def fileHeader (path : String) : String := line ("\n" ++ path ++ ":")

/-- Findings with a header wherever the path is another one than before. -/
def findingsText (current : Option String) : List Finding → String
  | [] => ""
  | f :: rest =>
    (if current = some f.path then "" else fileHeader f.path) ++ findingText f ++
      findingsText (some f.path) rest

def failureWords : FailureKind → String
  | .exhausted => "retries exhausted"
  | .permanent => "failed"
  | .cancelled => "cancelled"

def failureText (f : Failure) : String :=
  line ("  " ++ f.path ++ " [" ++ f.rule ++ "] " ++ failureWords f.kind ++ ": " ++ f.message)

def failuresText (failures : List Failure) : String :=
  if failures.isEmpty then ""
  else line "\nUnexpected errors:" ++ String.join (failures.map failureText)

def summaryText (v : Verdict) (files : Nat) : String :=
  line "" ++
    line
      ("Checked " ++ toString files ++ " files in " ++ toString v.checks ++ " tasks (" ++
        toString v.hits ++ " from cache, " ++ toString v.calls ++ " backend calls), found " ++
        toString v.findings.length ++ " issues") ++
    (if v.failures.isEmpty then ""
      else line (toString v.failures.length ++ " tasks could not be checked"))

def verdictText (v : Verdict) (files : Nat) : String :=
  findingsText none v.findings ++ failuresText v.failures ++ summaryText v files

/-! ### Dry runs -/

def dryRunText (d : DryRun) (files : Nat) : String :=
  line
      ("Dry run over " ++ toString files ++ " files: " ++ toString d.cached.checks ++ " of " ++
        toString d.checks ++ " tasks cached, " ++ toString d.calls ++ " backend calls needed") ++
    if d.pending.isEmpty then ""
    else
      line "\nWould check:" ++
        String.join (d.pending.map fun p => line ("  " ++ p.path ++ " [" ++ p.rule ++ "]"))

/-! ### Costs -/

/-- What a review cost, without what differs from run to run. -/
def costs (v : Verdict) : List (String × Nat) :=
  [("tasks", v.checks), ("cache hits", v.hits), ("cache misses", v.misses),
    ("backend calls", v.calls), ("retries", v.retries), ("prompt tokens", v.promptTokens.toNat),
    ("completion tokens", v.completionTokens.toNat),
    ("total tokens", (v.promptTokens + v.completionTokens).toNat)]

def costText (cost : String × Nat) : String :=
  line ("  " ++ atLeft 20 (cost.1 ++ ":") ++ " " ++ toString cost.2)

def costsText (v : Verdict) : String :=
  line "\nStats:" ++ String.join ((costs v ++ [("backend latency ms", v.latency)]).map costText)

/-! ### Evaluations -/

/-- A share in percent with one place, a half going to the even neighbour. -/
def percent : Option Decimal.Magnitude → String
  | none => "-"
  | some x =>
    let hundred := Decimal.binary64.round 100 1
    Decimal.fixed 1 (Decimal.binary64.mul x hundred) ++ "%"

def columnWidths : List Nat := [5, 4, 4, 4, 4, 4, 9, 7]

def nameWidth : Nat := 30

def row (name : String) (cells : List String) : String :=
  line (String.intercalate " | " (atLeft nameWidth name :: List.zipWith atRight columnWidths cells))

def ruler : String :=
  line (String.intercalate "-+-" ((nameWidth :: columnWidths).map fun w => padding '-' w ""))

def scoreRow (name : String) (s : Score) : String :=
  row name
    [toString s.files, toString s.truePositives, toString s.falsePositives,
      toString s.trueNegatives, toString s.falseNegatives, toString s.failures,
      percent s.precision, percent s.sensitivity]

def evaluationText (e : Evaluation) : String :=
  row "Rule" ["Files", "TP", "FP", "TN", "FN", "Err", "Precision", "Recall"] ++ ruler ++
    String.join (e.rules.map fun r => scoreRow r.1 r.2) ++ ruler ++ scoreRow "Total" e.total ++
    line ("\nAccuracy " ++ percent e.total.accuracy ++ ", F1 " ++ percent e.total.f1)

end PolicyLint.Report
