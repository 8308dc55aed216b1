import PolicyLint.Glob.Shape

/-!
# Slots

Globs that ask for an extension are grouped by it. The groups stand in the slots of a table, each at the
first free slot from the one that the hash of its extension selects, and are visited slot by slot.
-/

namespace PolicyLint.Glob

/-- A hash of eight bytes with more bytes mixed in, one after the other. -/
def mixBytes (hash : UInt64) (bytes : List UInt8) : UInt64 :=
  bytes.foldl (fun hash b => (hash ^^^ b.toUInt64) * 0x100000001b3) hash

def countBytes (n : Nat) : List UInt8 :=
  (List.range 8).map fun i => (n >>> (8 * i)).toUInt8

def hashExtension (text : List Char) : UInt64 :=
  let bytes := text.flatMap charBytes
  mixBytes (mixBytes 0xcbf29ce484222325 (countBytes bytes.length)) bytes

structure Group where
  extension : List Char
  globs : List Glob

abbrev Slots := List (Option Group)

namespace Slots

/-- The slots with a group put into the first free one from a place, or else from the start. -/
def put (slots : Slots) (start : Nat) (group : Group) : Slots :=
  let isFree (i : Nat) : Bool :=
    match slots[i]? with
    | some none => true
    | _ => false
  let places := (List.range slots.length).drop start ++ List.range slots.length
  match places.find? isFree with
  | some i => slots.set i (some group)
  | none => slots

def insert (slots : Slots) (group : Group) : Slots :=
  slots.put ((hashExtension group.extension).toNat % slots.length) group

def groups (slots : Slots) : List Group := slots.filterMap id

/-- How many groups a count of slots can hold. An eighth of a large table stays free. -/
def capacity (slots : Nat) : Nat := if slots < 16 then slots - 1 else slots / 8 * 7

def grow (slots : Slots) : Slots :=
  if slots.groups.length < capacity slots.length then slots
  else slots.groups.foldl insert (List.replicate (max 4 (2 * slots.length)) none)

def add (slots : Slots) (extension : List Char) (glob : Glob) : Slots :=
  if slots.groups.any (·.extension = extension) then
    slots.map fun slot => slot.map fun group =>
      if group.extension = extension then { group with globs := group.globs ++ [glob] } else group
  else slots.grow.insert { extension, globs := [glob] }

end Slots

end PolicyLint.Glob
