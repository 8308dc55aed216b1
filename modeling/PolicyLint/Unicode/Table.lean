/-!
# Tables of characters

A `Table` holds rows of numbers in ascending order of their first one, which is a code point. It is
written as lines of hexadecimal numbers, with commas between the rows, and searched by halving.
-/

namespace PolicyLint.Unicode

/-- Rows of numbers in ascending order of their first one. -/
structure Table where
  rows : Array (List Nat)

namespace Table

def number (digits : List Char) : Nat :=
  digits.foldl (fun n c => 16 * n + (if c.isDigit then c.toNat - 48 else c.toNat - 55)) 0

def readRow (row : List Char) : List Nat :=
  (row.splitOn ' ').filterMap fun word => if word.isEmpty then none else some (number word)

def ofLines (lines : List String) : Table :=
  ⟨(lines.flatMap fun line => (line.toList.splitOn ',').map readRow).toArray⟩

/-- The place behind the last row that starts at a code point or before it, if the rows in front of
`low` do and those from `high` on do not. -/
def search (t : Table) (n low high : Nat) : Nat :=
  if low < high then
    let middle := (low + high) / 2
    if ((t.rows[middle]?).bind List.head?).getD 0 ≤ n then t.search n (middle + 1) high
    else t.search n low middle
  else low
  termination_by high - low

def rowBefore? (t : Table) (n : Nat) : Option (List Nat) :=
  match t.search n 0 t.rows.size with
  | 0 => none
  | i + 1 => t.rows[i]?

def rest? (t : Table) (n : Nat) : Option (List Nat) :=
  match t.rowBefore? n with
  | some (first :: rest) => if first = n then some rest else none
  | _ => none

/-- The code point lies in one of the ranges, whose ends are the rows. -/
def covers (t : Table) (n : Nat) : Bool :=
  match t.rowBefore? n with
  | some [only] => n = only
  | some (_ :: last :: _) => n ≤ last
  | _ => false

/-- The value of the range of a code point, zero without one. The rows are the ends of the ranges and
their values. -/
def value (t : Table) (n : Nat) : Nat :=
  match t.rowBefore? n with
  | some [_, last, value] => if n ≤ last then value else 0
  | _ => 0

end Table

end PolicyLint.Unicode
