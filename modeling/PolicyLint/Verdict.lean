import PolicyLint.Finding

/-!
# Verdicts

A `Verdict` is what is known about some checks: the findings, the checks that could not be judged,
and what the judging cost. Verdicts are merged in order; `normalized` brings the findings and the
failures into the order of their files and rules.
-/

namespace PolicyLint

inductive FailureKind where
  /-- Failures that may pass kept happening. -/
  | exhausted
  /-- A failure that does not pass. -/
  | permanent
  /-- The run was aborted. -/
  | cancelled
  deriving DecidableEq, Repr

/-- A check that could not be judged. It says nothing about the code. -/
structure Failure where
  rule : String
  path : String
  message : String
  kind : FailureKind
  deriving DecidableEq, Repr

/-- Findings, failures and costs of some checks. -/
structure Verdict where
  findings : List Finding := []
  failures : List Failure := []
  checks : Nat := 0
  hits : Nat := 0
  misses : Nat := 0
  calls : Nat := 0
  retries : Nat := 0
  -- words of 64 bits, whose sums wrap around
  promptTokens : UInt64 := 0
  completionTokens : UInt64 := 0
  /-- Milliseconds spent on calls and waits. -/
  latency : Nat := 0
  deriving DecidableEq, Repr, Inhabited

namespace FailureKind

def name : FailureKind → String
  | exhausted => "transient_exhausted"
  | permanent => "permanent"
  | cancelled => "cancelled"

def named : List (String × FailureKind) :=
  [("transient_exhausted", exhausted), ("permanent", permanent), ("cancelled", cancelled)]

end FailureKind

namespace Failure

def toJson (f : Failure) : Json :=
  .object
    [("rule_name", .string f.rule), ("file_path", .string f.path), ("message", .string f.message),
      ("kind", .string f.kind.name)]

open Json in
def record : Record [String, String, String, FailureKind] where
  title := "UnexpectedError"
  tolerant := true
  fields :=
    .cons (.required "rule_name" .string) <| .cons (.required "file_path" .string) <|
    .cons (.required "message" .string) <|
    .cons (.required "kind" (.variants FailureKind.named)) .nil

def decoder : Json.Decoder Failure :=
  record.decoder fun (rule, path, message, kind, ()) => { rule, path, message, kind }

end Failure

/-- The file and the rule that something is about come first by file, then by rule. -/
def placeLe (path rule path' rule' : String) : Bool :=
  path < path' || (path = path' && rule ≤ rule')

namespace Verdict

def ofFindings (findings : List Finding) : Verdict := { findings }

def ofFailure (failure : Failure) : Verdict := { failures := [failure], checks := 1 }

/-- Both verdicts together, the first one in front. -/
def merge (a b : Verdict) : Verdict where
  findings := a.findings ++ b.findings
  failures := a.failures ++ b.failures
  checks := a.checks + b.checks
  hits := a.hits + b.hits
  misses := a.misses + b.misses
  calls := a.calls + b.calls
  retries := a.retries + b.retries
  promptTokens := a.promptTokens + b.promptTokens
  completionTokens := a.completionTokens + b.completionTokens
  latency := a.latency + b.latency

def fold (verdicts : List Verdict) : Verdict := verdicts.foldl merge {}

/-- The verdict with its findings and failures in the order of their files and rules; those of one
file and rule keep their order. -/
def normalized (v : Verdict) : Verdict :=
  { v with
    findings := v.findings.mergeSort fun a b => placeLe a.path a.rule b.path b.rule
    failures := v.failures.mergeSort fun a b => placeLe a.path a.rule b.path b.rule }

/-- The verdict of one check that reuses this one and costs nothing. -/
def asHit (v : Verdict) : Verdict :=
  { findings := v.findings, failures := v.failures, checks := 1, hits := 1 }

def isClean (v : Verdict) : Bool := v.findings.isEmpty

def hasFailures (v : Verdict) : Bool := !v.failures.isEmpty

def toJson (v : Verdict) : Json :=
  .object
    [("errors", .array (v.findings.map Finding.toJson)),
      ("unexpected_errors", .array (v.failures.map Failure.toJson)),
      ("num_tasks", .nat v.checks),
      ("num_cache_hits", .nat v.hits),
      ("num_cache_misses", .nat v.misses),
      ("num_backend_calls", .nat v.calls),
      ("num_retries", .nat v.retries),
      ("num_prompt_tokens", .nat v.promptTokens.toNat),
      ("num_completion_tokens", .nat v.completionTokens.toNat),
      ("latency_ms", .nat v.latency)]

open Json in
def record : Record [List Finding, List Failure, Nat, Nat, Nat, Nat, Nat, Nat, Nat, Nat] where
  title := "LintResult"
  tolerant := true
  fields :=
    .cons (.required "errors" (.list Finding.decoder)) <|
    .cons (.withDefault "unexpected_errors" (.list Failure.decoder) []) <|
    .cons (.required "num_tasks" .nat64) <| .cons (.required "num_cache_hits" .nat64) <|
    .cons (.required "num_cache_misses" .nat64) <| .cons (.required "num_backend_calls" .nat64) <|
    .cons (.required "num_retries" .nat64) <| .cons (.required "num_prompt_tokens" .nat64) <|
    .cons (.required "num_completion_tokens" .nat64) <| .cons (.required "latency_ms" .nat64) .nil

def decoder : Json.Decoder Verdict :=
  record.decoder fun (findings, failures, checks, hits, misses, calls, retries, promptTokens, completionTokens,
      latency, ()) =>
    { findings, failures, checks, hits, misses, calls, retries, latency
      promptTokens := .ofNat promptTokens, completionTokens := .ofNat completionTokens }

end Verdict

end PolicyLint
