import PolicyLint.Jsonc.Token
import PolicyLint.Json.Number
import PolicyLint.Json.Printer

/-!
# Reading commented JSON

`read` makes a JSON value of a text. Commas may trail or be missing, and members may be named by
words and numbers. In the value each object has its members in ascending order of their names, the
last one of equal names.
-/

namespace PolicyLint.Jsonc

open Decimal (Numeral)

def ofHexDigits (ds : List Char) : Nat :=
  ds.foldl (fun n c => n * 16 + (Json.hexValue? c).getD 0) 0

def numeralOf (negative : Bool) (cs : List Char) : Numeral :=
  let whole := cs.takeWhile Char.isDigit
  let (fraction, rest) :=
    match cs.dropWhile Char.isDigit with
    | '.' :: rest => (rest.takeWhile Char.isDigit, rest.dropWhile Char.isDigit)
    | rest => ([], rest)
  let exponent :=
    match rest with
    | _ :: '-' :: digits => some (true, digits)
    | _ :: '+' :: digits => some (false, digits)
    | _ :: digits => some (false, digits)
    | [] => none
  { negative, whole, fraction, exponent }

/-- The value of a number as it is written. What has no value as a number stays a text. -/
def numberValue (source : List Char) : Json :=
  let negative := source.head? = some '-'
  let magnitude := source.dropWhile fun c => c = '-' || c = '+'
  let text := Json.string (String.ofList source)
  match magnitude with
  | '0' :: 'x' :: ds | '0' :: 'X' :: ds =>
    let n := ofHexDigits ds
    if n < 0x8000000000000000 then .number { Numeral.ofNat n with negative := negative && n ≠ 0 } else text
  | _ =>
    let n := numeralOf negative magnitude
    match Json.number? n with
    | some _ => .number n
    | none => text

inductive Frame where
  | array (start : Nat) (items : List Json)
  | object (start : Nat) (members : List (String × Json)) (name : String)

inductive Due where
  | root
  | item (start : Nat) (items : List Json)
  | afterItem (start : Nat) (items : List Json)
  | name (start : Nat) (members : List (String × Json))
  | afterMember (start : Nat) (members : List (String × Json))
  | colon (start : Nat) (members : List (String × Json)) (name : String)
  | value
  | nothing (root : Option Json)

inductive Progress where
  | more (due : Due) (frames : List Frame)
  | done (value : Except Fault (Option Json))

def refuse (complaint : Complaint) (offset : Nat) : Progress := .done (.error ⟨complaint, offset⟩)

def place (j : Json) : List Frame → Progress
  | [] => .more (.nothing (some j)) []
  | .array start items :: frames => .more (.afterItem start (j :: items)) frames
  | .object start members name :: frames =>
    .more (.afterMember start ((name, j) :: members)) frames

/-- A token where a value is due, `atEnd` being the outcome when the text ends instead. -/
def readValue (t : Token) (atEnd : Progress) (frames : List Frame) : Progress :=
  match t.kind with
  | .openBrace => .more (.name t.start []) frames
  | .openBracket => .more (.item t.start []) frames
  | .string s => place (.string (String.ofList s)) frames
  | .number source => place (numberValue source) frames
  | .bool b => place (.bool b) frames
  | .null => place .null frames
  | .closeBrace => refuse .unexpectedCloseBrace t.start
  | .closeBracket => refuse .unexpectedCloseBracket t.start
  | .comma => refuse .unexpectedComma t.start
  | .colon => refuse .unexpectedColon t.start
  | .word _ => refuse .unexpectedWord t.start
  | .finish => atEnd
  | .broken fault => .done (.error fault)

def readItem (t : Token) (start : Nat) (items : List Json) (frames : List Frame) : Progress :=
  match t.kind with
  | .closeBracket => place (.array items.reverse) frames
  | _ => readValue t (refuse .unterminatedArray start) (.array start items :: frames)

def readName (t : Token) (start : Nat) (members : List (String × Json)) (frames : List Frame) :
    Progress :=
  match t.kind with
  | .closeBrace => place (.object members.reverse) frames
  | .string s | .word s | .number s => .more (.colon start members (String.ofList s)) frames
  | .finish => refuse .unterminatedObject start
  | .broken fault => .done (.error fault)
  | _ => refuse .unexpectedTokenInObject t.start

def readToken (t : Token) (due : Due) (frames : List Frame) : Progress :=
  match due with
  | .root => readValue t (.done (.ok none)) frames
  | .item start items => readItem t start items frames
  | .afterItem start items =>
    match t.kind with
    | .comma => .more (.item start items) frames
    | _ => readItem t start items frames
  | .name start members => readName t start members frames
  | .afterMember start members =>
    match t.kind with
    | .comma => .more (.name start members) frames
    | _ => readName t start members frames
  | .colon start members name =>
    match t.kind with
    | .colon => .more .value (.object start members name :: frames)
    | .broken fault => .done (.error fault)
    | _ => refuse .colonExpected t.start
  | .value => readValue t (refuse .valueExpected t.start) frames
  | .nothing root =>
    match t.kind with
    | .finish => .done (.ok root)
    | .broken fault => .done (.error fault)
    | _ => refuse .moreThanOneValue t.start

/-- Reads tokens until the value is final. A list of tokens ends with the end of its text, so it does
not run out before. -/
def readTokens : List Token → Due → List Frame → Except Fault (Option Json)
  | [], _, _ => .ok none
  | t :: rest, due, frames =>
    match readToken t due frames with
    | .more due frames => readTokens rest due frames
    | .done value => value

/-- The value of a text; a text without a value counts as an empty object. -/
def read (cs : List Char) : Except Fault Json :=
  (readTokens (tokens cs) .root []).map fun value => (value.getD (.object [])).sorted

def readText (s : String) : Except String Json := (read s.toList).mapError (Fault.message s.toList)

end PolicyLint.Jsonc
