import PolicyLint.Cache.Fault
import PolicyLint.Duration

/-!
# Notices

What a run has to say besides its verdict. Notices never change an outcome.
-/

namespace PolicyLint

inductive Notice where
  | notText (path : String)
  | noDescription (rule : String)
  | notFileRule (rule : String)
  | lookupFailed (fault : StoreFault)
  | storingFailed (fault : StoreFault)
  | savingFailed (fault : StoreFault)
  | loadingFailed (fault : StoreFault)
  | retrying (attempt attempts : Nat) (path rule : String) (delay : Nat) (why : String)
  | unjudged (path rule why : String)
  | falsePositive (rule path : String)
  | falseNegative (rule path : String)
  | unjudgedFixture (rule path : String)
  | noServiceKey (name : String)
  deriving DecidableEq, Repr

namespace Notice

def message : Notice → String
  | notText path => "Skipping " ++ path ++ ": not valid UTF-8"
  | noDescription rule => "Skipping rule '" ++ rule ++ "': it has no description"
  | notFileRule rule => "Skipping rule '" ++ rule ++ "': only file rules can be evaluated"
  | lookupFailed fault => "Cache read failed, recomputing: " ++ fault.message
  | storingFailed fault => "Cache write failed: " ++ fault.message
  | savingFailed fault => "Failed to save cache: " ++ fault.message
  | loadingFailed fault => "Failed to load cache: " ++ fault.message
  | retrying attempt attempts path rule delay why =>
    "Attempt " ++ toString attempt ++ "/" ++ toString attempts ++ " for " ++ path ++ " / " ++ rule ++
      " failed, retrying in " ++ Duration.text delay ++ ": " ++ why
  | unjudged path rule why => "Unexpected error for " ++ path ++ " / " ++ rule ++ ": " ++ why
  | falsePositive rule path => rule ++ ": false positive on " ++ path
  | falseNegative rule path => rule ++ ": false negative on " ++ path
  | unjudgedFixture rule path => rule ++ ": unexpected error on " ++ path
  | noServiceKey name => name ++ " is not set; every backend call will fail"

end Notice

end PolicyLint
