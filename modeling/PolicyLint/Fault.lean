import PolicyLint.Cache.Fault
import PolicyLint.Glob.Parser
import PolicyLint.Glob.Set

/-!
# Faults of a run

A `Fault` ends a run as a whole. Its text names the area it belongs to. A check that fails is no fault:
it is recorded in the verdict.
-/

namespace PolicyLint

inductive SetupFault where
  | unreadableConfig (path : String) (fault : FileFault)
  | malformedConfig (why : String)
  | mismatchedConfig (why : String)
  | idleFiles
  | idleRules
  | noAttempts
  | noTimeout
  | unnamedModel
  | noRules
  | invalidRuleName (name : String)
  | duplicateRule (name : String)
  | duplicatePath (path : String)
  | noConcurrency
  | exclusiveLabels
  | invalidFilter (pattern : String) (fault : Glob.Fault)
  | invalidPattern (pattern : String) (fault : Glob.Fault)
  | unusableGlobs (fault : Glob.Set.Fault)
  deriving DecidableEq, Repr

namespace SetupFault

def message : SetupFault → String
  | unreadableConfig path fault => "Failed to read config " ++ path ++ ": " ++ fault.message
  | malformedConfig why => "Invalid JSON: " ++ why
  | mismatchedConfig why => "Invalid config: " ++ why
  | idleFiles => "concurrency.files must be at least 1"
  | idleRules => "concurrency.rules must be at least 1"
  | noAttempts => "retry.max_attempts must be at least 1"
  | noTimeout => "retry.timeout_secs must be at least 1"
  | unnamedModel => "model.model must not be empty"
  | noRules => "No rules configured"
  | invalidRuleName name => "Invalid rule name '" ++ name ++ "'"
  | duplicateRule name => "Duplicate rule name '" ++ name ++ "'"
  | duplicatePath path => "Duplicate file path '" ++ path ++ "'"
  | noConcurrency => "Concurrency must be at least 1"
  | exclusiveLabels => "Cannot evaluate only correct and only incorrect examples at once"
  | invalidFilter pattern fault =>
    "Invalid glob pattern '" ++ pattern ++ "': " ++ fault.describe pattern
  | invalidPattern pattern fault => "Invalid pattern '" ++ pattern ++ "': " ++ fault.describe pattern
  | unusableGlobs fault => "Failed to build globset: " ++ fault.message

end SetupFault

inductive Area where
  | config
  | file
  | cache
  | io
  | internal
  deriving DecidableEq, Repr

namespace Area

def title : Area → String
  | config => "Configuration error"
  | file => "File error"
  | cache => "Cache error"
  | io => "I/O error"
  | internal => "Internal error"

def describe (area : Area) (message : String) : String := area.title ++ ": " ++ message

end Area

/-- Why a run ends without a verdict. -/
inductive Fault where
  | setup (fault : SetupFault)
  | unreadable (path : String) (fault : FileFault)
  | store (fault : StoreFault)
  | file (fault : FileFault)
  deriving DecidableEq, Repr

namespace Fault

def area : Fault → Area
  | setup _ => .config
  | unreadable _ _ => .file
  | store _ => .cache
  | file _ => .io

def message : Fault → String
  | setup fault => fault.message
  | unreadable path fault => "Failed to read " ++ path ++ ": " ++ fault.message
  | store fault => fault.message
  | file fault => fault.message

def describe (fault : Fault) : String := fault.area.describe fault.message

end Fault

end PolicyLint
