import PolicyLint.Json.Basic

/-!
# Written JSON

`compact` writes a value without blanks. `pretty` writes each item and member on a line of its own,
two spaces deeper than its container, and an empty container as two brackets.
-/

namespace PolicyLint.Json

def hexDigit (n : Nat) : Char := Nat.digitChar n

/-- A character inside a quoted string. Only quotes, backslashes and control characters are
escaped, the latter by a letter where there is one. -/
def escapeChar (c : Char) : List Char :=
  if c = '"' then ['\\', '"']
  else if c = '\\' then ['\\', '\\']
  else if c = '\n' then ['\\', 'n']
  else if c = '\r' then ['\\', 'r']
  else if c = '\t' then ['\\', 't']
  else if c = '\x08' then ['\\', 'b']
  else if c = '\x0c' then ['\\', 'f']
  else if c.toNat < 0x20 then
    ['\\', 'u', '0', '0', hexDigit (c.toNat / 16), hexDigit (c.toNat % 16)]
  else [c]

def quote (s : String) : List Char :=
  '"' :: s.toList.flatMap escapeChar ++ ['"']

mutual

def compact : Json → List Char
  | .null => ['n', 'u', 'l', 'l']
  | .bool true => ['t', 'r', 'u', 'e']
  | .bool false => ['f', 'a', 'l', 's', 'e']
  | .number n => n.chars
  | .string s => quote s
  | .array items => '[' :: compactItems items ++ [']']
  | .object members => '\x7b' :: compactMembers members ++ ['\x7d']

def compactItems : List Json → List Char
  | [] => []
  | [j] => compact j
  | j :: rest => compact j ++ ',' :: compactItems rest

def compactMembers : List (String × Json) → List Char
  | [] => []
  | [(k, j)] => quote k ++ ':' :: compact j
  | (k, j) :: rest => quote k ++ ':' :: compact j ++ ',' :: compactMembers rest

end

def newline (level : Nat) : List Char := '\n' :: List.replicate (2 * level) ' '

mutual

def prettyAt (level : Nat) : Json → List Char
  | .array items =>
    if items.isEmpty then ['[', ']']
    else '[' :: newline (level + 1) ++ prettyItems (level + 1) items ++ newline level ++ [']']
  | .object members =>
    if members.isEmpty then ['\x7b', '\x7d']
    else
      '\x7b' :: newline (level + 1) ++ prettyMembers (level + 1) members ++ newline level ++
        ['\x7d']
  | .null => compact .null
  | .bool b => compact (.bool b)
  | .number n => compact (.number n)
  | .string s => compact (.string s)

def prettyItems (level : Nat) : List Json → List Char
  | [] => []
  | [j] => prettyAt level j
  | j :: rest => prettyAt level j ++ ',' :: newline level ++ prettyItems level rest

def prettyMembers (level : Nat) : List (String × Json) → List Char
  | [] => []
  | [(k, j)] => quote k ++ ':' :: ' ' :: prettyAt level j
  | (k, j) :: rest =>
    quote k ++ ':' :: ' ' :: prettyAt level j ++ ',' :: newline level ++ prettyMembers level rest

end

def render (j : Json) : String := String.ofList j.compact

def renderPretty (j : Json) : String := String.ofList (j.prettyAt 0)

/-- The members with distinct keys in ascending order; of equal keys the last one counts. -/
def sortMembers (members : List (String × Json)) : List (String × Json) :=
  members.foldl insertMember []
where
  /-- A member put at its place, instead of the one with its key if there is one. -/
  insertMember : List (String × Json) → String × Json → List (String × Json)
    | [], m => [m]
    | x :: rest, m =>
      if m.1 < x.1 then m :: x :: rest
      else if m.1 = x.1 then m :: rest
      else x :: insertMember rest m

mutual

def sorted : Json → Json
  | .array items => .array (sortedItems items)
  | .object members => .object (sortMembers (sortedMembers members))
  | .null => .null
  | .bool b => .bool b
  | .number n => .number n
  | .string s => .string s

def sortedItems : List Json → List Json
  | [] => []
  | j :: rest => sorted j :: sortedItems rest

def sortedMembers : List (String × Json) → List (String × Json)
  | [] => []
  | (k, j) :: rest => (k, sorted j) :: sortedMembers rest

end

end PolicyLint.Json
