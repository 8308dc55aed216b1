import PolicyLint.Fault
import PolicyLint.Rule.Basic
import PolicyLint.SourceFile

/-!
# Accepted input

A run needs rules with valid and distinct names, and files with distinct paths. The first offence in
the order of the lists is reported, rules before files.
-/

namespace PolicyLint

/-- Rules with valid names that are distinct from each other and from the names before them. -/
def validateNames (seen : List String) : List Rule → Except SetupFault Unit
  | [] => .ok ()
  | rule :: rest =>
    if !Rule.isValidName rule.name then .error (.invalidRuleName rule.name)
    else if seen.contains rule.name then .error (.duplicateRule rule.name)
    else validateNames (rule.name :: seen) rest

def validateRules (rules : List Rule) : Except SetupFault Unit :=
  if rules.isEmpty then .error .noRules else validateNames [] rules

def validatePaths (seen : List String) : List SourceFile → Except SetupFault Unit
  | [] => .ok ()
  | file :: rest =>
    if seen.contains file.path then .error (.duplicatePath file.path)
    else validatePaths (file.path :: seen) rest

def validateInputs (files : List SourceFile) (rules : List Rule) : Except SetupFault Unit := do
  validateRules rules
  validatePaths [] files

end PolicyLint
