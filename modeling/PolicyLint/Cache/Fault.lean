import PolicyLint.Files.Fault

/-!
# What can go wrong with a store
-/

namespace PolicyLint

inductive StoreFault where
  /-- The stored file cannot be understood. -/
  | corrupted (why : String)
  | file (fault : FileFault)
  | unwritable (why : String)
  | unavailable (why : String)
  deriving DecidableEq, Repr

namespace StoreFault

def message : StoreFault → String
  | corrupted why => "Corrupted cache: " ++ why
  | file fault => "I/O error: " ++ fault.message
  | unwritable why => "Serialization error: " ++ why
  | unavailable why => "Cache unavailable: " ++ why

end StoreFault

end PolicyLint
