import PolicyLint.Decimal.Shortest
import PolicyLint.Text.Quotation

/-!
# What can be wrong with a JSON document

A `Complaint` is a cause. A `Fault` is a complaint together with the place in the text it points
at, given as the count of bytes before it.
-/

namespace PolicyLint.Json

open Decimal (Binary)

inductive Found where
  | null
  | bool (b : Bool)
  | integer (i : Int)
  | real (x : Binary)
  | string (s : String)
  | sequence
  | map
  deriving DecidableEq, Repr

inductive Complaint where
  | endInValue
  | endInList
  | endInObject
  | endInString
  | expectedValue
  | expectedIdent
  | expectedColon
  | expectedCommaOrBracket
  | expectedCommaOrBrace
  | keyNotString
  | trailingComma
  | trailingCharacters
  | invalidNumber
  | numberOutOfRange
  | invalidEscape
  | loneSurrogate
  | brokenSurrogatePair
  | controlCharacter
  | invalidType (found : Found) (expected : String)
  | invalidValue (found : Found) (expected : String)
  | invalidLength (length : Nat) (expected : String)
  | missingField (name : String)
  | unknownField (name : String) (known : List String)
  | unknownVariant (name : String) (known : List String)
  | duplicateField (name : String)
  deriving DecidableEq, Repr

/-- A complaint about the text at an offset in bytes. -/
structure Fault where
  complaint : Complaint
  offset : Nat
  deriving DecidableEq, Repr

namespace Found

def message : Found → String
  | null => "null"
  | bool b => "boolean `" ++ (if b then "true" else "false") ++ "`"
  | integer i => "integer `" ++ toString i ++ "`"
  | real x =>
    let text :=
      match Decimal.Layout.double.numeral? Decimal.binary64 x with
      | some n => n.text
      | none => "null"
    "floating point `" ++ text ++ "`"
  | string s => "string " ++ Text.quotation s
  | sequence => "sequence"
  | map => "map"

end Found

def alternatives : List String → String
  | [] => "there are no fields"
  | [a] => "expected `" ++ a ++ "`"
  | [a, b] => "expected `" ++ a ++ "` or `" ++ b ++ "`"
  | names => "expected one of " ++ String.intercalate ", " (names.map fun n => "`" ++ n ++ "`")

namespace Complaint

def message : Complaint → String
  | endInValue => "EOF while parsing a value"
  | endInList => "EOF while parsing a list"
  | endInObject => "EOF while parsing an object"
  | endInString => "EOF while parsing a string"
  | expectedValue => "expected value"
  | expectedIdent => "expected ident"
  | expectedColon => "expected `:`"
  | expectedCommaOrBracket => "expected `,` or `]`"
  | expectedCommaOrBrace => "expected `,` or `\x7d`"
  | keyNotString => "key must be a string"
  | trailingComma => "trailing comma"
  | trailingCharacters => "trailing characters"
  | invalidNumber => "invalid number"
  | numberOutOfRange => "number out of range"
  | invalidEscape => "invalid escape"
  | loneSurrogate => "lone leading surrogate in hex escape"
  | brokenSurrogatePair => "unexpected end of hex escape"
  | controlCharacter => "control character (\\u0000-\\u001F) found while parsing a string"
  | invalidType found expected => "invalid type: " ++ found.message ++ ", expected " ++ expected
  | invalidValue found expected => "invalid value: " ++ found.message ++ ", expected " ++ expected
  | invalidLength n expected => "invalid length " ++ toString n ++ ", expected " ++ expected
  | missingField name => "missing field `" ++ name ++ "`"
  | unknownField name known => "unknown field `" ++ name ++ "`, " ++ alternatives known
  | unknownVariant name known => "unknown variant `" ++ name ++ "`, " ++ alternatives known
  | duplicateField name => "duplicate field `" ++ name ++ "`"

end Complaint

/-- The line and column of an offset: lines from one, columns in bytes since the line began. -/
def position (text : List Char) (offset : Nat) : Nat × Nat :=
  go text offset 1 0
where
  go : List Char → Nat → Nat → Nat → Nat × Nat
    | [], left, line, column => (line, column + left)
    | c :: rest, left, line, column =>
      if left < c.utf8Size then (line, column + left)
      else if c = '\n' then go rest (left - 1) (line + 1) 0
      else go rest (left - c.utf8Size) line (column + c.utf8Size)

def Fault.message (text : List Char) (fault : Fault) : String :=
  let (line, column) := position text fault.offset
  fault.complaint.message ++ " at line " ++ toString line ++ " column " ++ toString column

end PolicyLint.Json
