import PolicyLint.Prompt.Basic
import PolicyLint.Verdict

/-!
# Tasks

A task is a rule to be checked on a file under a model. Tasks with one key ask the same question, so the
verdict of one answers the others once it is pointed at their file.
-/

namespace PolicyLint

/-- A rule to be checked on a file. -/
structure Task where
  file : SourceFile
  rule : Rule
  model : Model
  deriving DecidableEq, Repr

namespace Task

/-- The key under which the verdict is stored. -/
def key (t : Task) : Key := Key.of t.file.fingerprint t.rule.fingerprint t.model.fingerprint

def prompt (t : Task) : Prompt := Prompt.render t.file t.rule t.model

/-- The tasks of one rule. A rule for the project has one task, unless there are no files. -/
def ofRule (model : Model) (files : List SourceFile) (rule : Rule) : List Task :=
  match rule.scope with
  | .file => files.map fun file => { file, rule, model }
  | .project => if files.isEmpty then [] else [{ file := .project files, rule, model }]

def ofRules (model : Model) (files : List SourceFile) (rules : List Rule) : List Task :=
  rules.flatMap (ofRule model files)

end Task

namespace Verdict

/-- The verdict with all findings and failures moved to a file and a rule. -/
def retarget (v : Verdict) (path rule : String) : Verdict :=
  { v with
    findings := v.findings.map fun f => { f with path, rule }
    failures := v.failures.map fun f => { f with path, rule } }

def servedTo (v : Verdict) (t : Task) : Verdict := v.asHit.retarget t.file.path t.rule.name

/-- The verdict of a task as the answer to another one with the same key. A failure is shared and does
not count as a hit. -/
def sharedWith (v : Verdict) (t : Task) : Verdict :=
  if v.hasFailures then
    ({ failures := v.failures, checks := 1 } : Verdict).retarget t.file.path t.rule.name
  else v.servedTo t

end Verdict

end PolicyLint
