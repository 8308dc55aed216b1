import PolicyLint.Domain.Mapping
import PolicyLint.Domain.Punycode
import PolicyLint.Unicode.Direction
import PolicyLint.Unicode.Joining

/-!
# Labels

A name of a host consists of labels between dots. A `Label` has a text, which people read, and a plain
form, in which it is sent. A plain form that starts with `xn--` holds the text in Punycode.
-/

namespace PolicyLint.Domain

open Unicode

structure Label where
  text : List Char
  plain : List Char
  deriving DecidableEq, Repr

/-- The character may not stand in the name of a host, though it may stand in other names. -/
def isForbidden (c : Char) : Bool :=
  c.toNat ≤ 0x20 || c.toNat = 0x7F ||
    ['%', '#', '/', ':', '<', '>', '?', '@', '[', '\\', ']', '^', '|'].contains c

def isPlain (c : Char) : Bool := c.toNat < 0x80

/-- How a label in Punycode starts. -/
def marker : List Char := ['x', 'n', '-', '-']

def longestReading : Nat := 2000

def longestWriting : Nat := 1000

/-! ### Joiners -/

/-- The character that keeps its neighbours apart. -/
def nonJoiner : Char := '\u200C'

def joiner : Char := '\u200D'

/-- The first character that is not transparent is joined in the given way. -/
def joins (reaches : Joining → Bool) : List Char → Bool
  | [] => false
  | c :: rest =>
    if reaches (.ofChar c) then true
    else if Joining.ofChar c = .transparent then joins reaches rest
    else false

/-- Each joiner stands behind a mark that silences a vowel, or keeps apart what would be joined. The
characters in front come first, reversed. -/
def joinersFit : (before : List Char) → List Char → Bool
  | _, [] => true
  | before, c :: rest =>
    let silenced := (before.head?.map fun b => combiningClass b.toNat) = some viramaClass
    let fits :=
      if c = nonJoiner then
        decide silenced || (joins Joining.reachesForward before && joins Joining.reachesBackward rest)
      else c != joiner || decide silenced
    fits && joinersFit (c :: before) rest

/-! ### Directions -/

/-- The directions of the text without marks at its end, and the last one. -/
def lastDirection? (ds : List Direction) : Option Direction :=
  ds.reverse.find? (· != .mark)

/-- A text from right to left, or one next to such texts, keeps to the order in which it is read. -/
def isOrdered (text : List Char) : Bool :=
  let ds := text.map Direction.ofChar
  let last (allowed : List Direction) : Bool :=
    match lastDirection? ds with
    | some d => allowed.contains d
    | none => false
  match ds with
  | [] => true
  | .leftToRight :: _ =>
    ds.all [.leftToRight, .digit, .sign, .separator, .terminator, .neutral, .boundary, .mark].contains &&
      last [.leftToRight, .digit]
  | first :: _ =>
    (first = .rightToLeft || first = .arabicLetter) &&
      ds.all [.rightToLeft, .arabicLetter, .arabicDigit, .digit, .sign, .separator, .terminator,
        .neutral, .boundary, .mark].contains &&
      last [.rightToLeft, .arabicLetter, .digit, .arabicDigit] &&
      !(ds.contains .digit && ds.contains .arabicDigit)

def runsBackward (text : List Char) : Bool :=
  text.any fun c => [.rightToLeft, .arabicLetter, .arabicDigit].contains (Direction.ofChar c)

/-! ### Reading labels -/

namespace Label

def isText (text : List Char) : Bool :=
  !text.any isForbidden && !((text.head?.map fun c => isMark c.toNat).getD false) && joinersFit [] text

def ofText? (text : List Char) : Option Label :=
  if !isText text then none
  else if text.all isPlain then some { text, plain := text }
  else if longestWriting < text.length then none
  else some { text, plain := marker ++ Punycode.encode text }

/-- The label that holds Punycode behind its marker. The text must be in its final form. -/
def ofPunycode? (code : List Char) : Option Label := do
  if code.getLast? = none || code.getLast? = some '-' || longestReading < code.length then none
  else
    let text ← Punycode.decode? code
    if mapped? text = some text && !text.contains '.' && isText text then
      some { text, plain := marker ++ code }
    else none

/-- The label of a text in which capitals have become small letters. -/
def ofLower? (text : List Char) : Option Label :=
  if marker.isPrefixOf text then
    if text.all isPlain then ofPunycode? (text.drop marker.length) else none
  else ofText? text

end Label

end PolicyLint.Domain
