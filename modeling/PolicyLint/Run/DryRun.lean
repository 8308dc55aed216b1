import PolicyLint.Run.Engine

/-!
# Dry runs

A dry run tells which tasks the store answers and which ones would reach the judge. It asks nothing and
stores nothing.
-/

namespace PolicyLint

structure Pending where
  path : String
  rule : String
  deriving DecidableEq, Repr

structure DryRun where
  /-- What the store answers. -/
  cached : Verdict := {}
  /-- The tasks that the store does not answer, in order. -/
  pending : List Pending := []
  /-- The calls that would start, one for each key. -/
  calls : Nat := 0
  deriving DecidableEq, Repr

namespace DryRun

def checks (d : DryRun) : Nat := d.cached.checks + d.pending.length

def toJson (d : DryRun) : Json :=
  .object
    [("cached", d.cached.toJson),
      ("pending", .array (d.pending.map fun p =>
        .object [("file_path", .string p.path), ("rule_name", .string p.rule)])),
      ("num_backend_calls", .nat d.calls)]

end DryRun

namespace Engine

variable {σ τ : Type}

def lookupAll (e : Engine σ τ) : List Task → World σ τ → List (Task × Option Verdict) × World σ τ
  | [], w => ([], w)
  | task :: rest, w =>
    let (found, w) := e.lookup task.key w
    let (others, w) := e.lookupAll rest w
    ((task, found) :: others, w)

def dryRun (e : Engine σ τ) (tasks : List Task) (w : World σ τ) : DryRun × World σ τ :=
  let (found, w) := e.lookupAll tasks w
  let hits := found.filterMap fun (task, v) => v.map fun v => v.servedTo task
  let misses := found.filterMap fun (task, v) => if v.isNone then some task else none
  ({ cached := Verdict.fold hits
     pending := misses.map fun t => { path := t.file.path, rule := t.rule.name }
     calls := (misses.map Task.key).eraseDups.length },
    w)

end Engine

end PolicyLint
