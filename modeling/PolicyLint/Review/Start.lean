import PolicyLint.Endpoint.Basic
import PolicyLint.Review.Basic

/-!
# What a configuration sets up

A review starts from the verdicts that earlier reviews have saved. It starts without them if they cannot
be read.
-/

namespace PolicyLint

namespace Manager

def ofConfig (config : Config) : Manager where
  enabled := config.cached
  maxAge := config.cacheMaxAge?

/-- The manager over what a directory holds. A failure is only noted. -/
def start (m : Manager) (d : CacheDir) (now : Nat) : Manager × List Notice :=
  match m.load d now with
  | .ok loaded => (loaded, [])
  | .error fault => (m, [.loadingFailed fault])

end Manager

namespace Endpoint

def notices (e : Endpoint) : List Notice :=
  if e.hasKey then [] else [.noServiceKey e.keyVariable]

end Endpoint

namespace World

variable {σ : Type}

def ofConfig (config : Config) (judge : σ) (d : CacheDir) (now : Nat) :
    World σ (Manager × CacheDir) :=
  let (manager, notices) := (Manager.ofConfig config).start d now
  { judge, store := (manager, d), notices }

end World

end PolicyLint
