import PolicyLint.Digest.Key
import PolicyLint.Verdict

/-!
# Stored verdicts

An `Entry` is a verdict with the key it belongs to. `Entries` maps keys to entries. The key of an entry
can differ from the one it is filed under, when it comes from a file.
-/

namespace PolicyLint

/-- A stored verdict. Times are in seconds. -/
structure Entry where
  key : Key
  verdict : Verdict
  created : Nat
  deriving DecidableEq, Repr

namespace Entry

def isExpired (e : Entry) (now maxAge : Nat) : Bool := maxAge < now - e.created

end Entry

/-- Entries filed under keys, each key at most once. -/
structure Entries where
  toList : List (Key × Entry) := []
  nodup_keys : (toList.map (·.1)).Nodup := by exact List.nodup_nil
  deriving DecidableEq, Repr

namespace Entries

def empty : Entries := {}

def get? (es : Entries) (k : Key) : Option Entry := es.toList.lookup k

theorem nodup_keys_filter (es : Entries) (p : Key × Entry → Bool) :
    ((es.toList.filter p).map (·.1)).Nodup :=
  es.nodup_keys.sublist (List.filter_sublist.map _)

def erase (es : Entries) (k : Key) : Entries :=
  ⟨es.toList.filter fun p => p.1 ≠ k, es.nodup_keys_filter _⟩

theorem nodup_keys_cons_erase (es : Entries) (k : Key) (e : Entry) :
    (((k, e) :: (es.erase k).toList).map (·.1)).Nodup := by
  refine List.nodup_cons.mpr ⟨?_, (es.erase k).nodup_keys⟩
  intro filed
  obtain ⟨p, member, same⟩ := List.mem_map.mp filed
  exact of_decide_eq_true (List.mem_filter.mp member).2 same

/-- The entries with one more, instead of the one filed under the same key. -/
def insert (es : Entries) (k : Key) (e : Entry) : Entries :=
  ⟨(k, e) :: (es.erase k).toList, es.nodup_keys_cons_erase k e⟩

def prune (es : Entries) (now maxAge : Nat) : Entries :=
  ⟨es.toList.filter fun p => !p.2.isExpired now maxAge, es.nodup_keys_filter _⟩

def size (es : Entries) : Nat := es.toList.length

def isEmpty (es : Entries) : Bool := es.toList.isEmpty

def ofList (items : List (Key × Entry)) : Entries :=
  items.foldl (fun es p => es.insert p.1 p.2) empty

end Entries

end PolicyLint
