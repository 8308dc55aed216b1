import PolicyLint.Cache.Directory

/-!
# Cache managers

A `Manager` keeps entries in memory and saves them on `flush`. It writes only when something changed
since the last flush. Expired entries are dropped on loading and on flushing.
-/

namespace PolicyLint

/-- Entries in memory, and how they are to be kept. -/
structure Manager where
  entries : Entries := {}
  /-- Something changed since the last flush. -/
  dirty : Bool := false
  enabled : Bool := true
  /-- The age in seconds beyond which entries expire. -/
  maxAge : Option Nat := none
  deriving DecidableEq, Repr

namespace Manager

/-- Nothing is looked up, loaded or written from now on. -/
def disable (m : Manager) : Manager := { m with enabled := false }

def enable (m : Manager) : Manager := { m with enabled := true }

def remove (m : Manager) (k : Key) : Manager :=
  { m with entries := m.entries.erase k, dirty := m.dirty || (m.entries.get? k).isSome }

def clear (m : Manager) : Manager := { m with entries := {}, dirty := true }

/-- The count of expired entries, and the manager without them. -/
def prune (m : Manager) (now : Nat) : Nat × Manager :=
  match m.maxAge with
  | none => (0, m)
  | some maxAge =>
    let kept := m.entries.prune now maxAge
    let removed := m.entries.size - kept.size
    (removed, { m with entries := kept, dirty := m.dirty || 0 < removed })

/-- Replaces the entries by the saved ones, if there are any. -/
def reload (m : Manager) (d : CacheDir) (now : Nat) : Except StoreFault Unit × Manager :=
  if !m.enabled then (.ok (), m)
  else
    match d.read with
    | .error fault => (.error fault, m)
    | .ok none => (.ok (), m)
    | .ok (some es) => (.ok (), ({ m with entries := es, dirty := false }.prune now).2)

def load (m : Manager) (d : CacheDir) (now : Nat) : Except StoreFault Manager :=
  match m.reload d now with
  | (.ok (), m) => .ok m
  | (.error fault, _) => .error fault

def get (m : Manager) (k : Key) : Option Entry :=
  if m.enabled then (m.entries.get? k).filter fun e => e.key = k else none

def set (m : Manager) (k : Key) (v : Verdict) (now : Nat) : Manager :=
  if m.enabled then
    { m with entries := m.entries.insert k { key := k, verdict := v, created := now }, dirty := true }
  else m

/-- Saves the entries if something changed. They stay pending when that fails. -/
def flush (m : Manager) (d : CacheDir) (now : Nat) : Except StoreFault Unit × Manager × CacheDir :=
  if !m.enabled then (.ok (), m, d)
  else
    let m := (m.prune now).2
    if !m.dirty then (.ok (), m, d)
    else
      let m := { m with dirty := false }
      match d.write m.entries with
      | (.ok (), d) => (.ok (), m, d)
      | (.error fault, d) => (.error fault, { m with dirty := true }, d)

end Manager

end PolicyLint
