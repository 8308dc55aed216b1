import PolicyLint.Cache.Manager

/-!
# Stores

A run looks verdicts up in a `Store` and files new ones there. Looking up never waits, and every
operation can fail. A store carries its own state, so two look-ups of one key need not agree.
-/

namespace PolicyLint

/-- A keeper of verdicts with states in `τ`. -/
structure Store (τ : Type) where
  get : τ → Key → Except StoreFault (Option Entry) × τ
  set : τ → Key → Verdict → Except StoreFault Unit × τ
  flush : τ → Except StoreFault Unit × τ

namespace Store

def ofManager (now : Nat) : Store (Manager × CacheDir) where
  get s k := (.ok (s.1.get k), s)
  set s k v := (.ok (), s.1.set k v now, s.2)
  flush s :=
    let (outcome, m, d) := s.1.flush s.2 now
    (outcome, m, d)

end Store

end PolicyLint
