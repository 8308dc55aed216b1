import PolicyLint.Text.Alphanumeric
import PolicyLint.Text.Blank
import PolicyLint.Json.Token

/-!
# Tokens of commented JSON

Commented JSON is JSON with comments, strings in single quotes, hexadecimal numbers, numbers with a
plus sign and bare words. Offsets count characters.
-/

namespace PolicyLint.Jsonc

open Json (hexValue? hexValue4? isHighSurrogate isLowSurrogate ofSurrogates)

inductive Complaint where
  | colonExpected
  | digitExpected
  | digitExpectedAfterSign
  | exponentExpected
  | valueExpected
  | moreThanOneValue
  | unexpectedCloseBrace
  | unexpectedCloseBracket
  | unexpectedColon
  | unexpectedComma
  | unexpectedToken
  | unexpectedTokenInObject
  | unexpectedWord
  | unterminatedArray
  | unterminatedComment
  | unterminatedObject
  | unterminatedString
  | hexDigitsExpected
  | invalidEscape
  | escapeInSingleQuotes
  | escapeInDoubleQuotes
  | unpairedHigh (digits : List Char)
  | unpairedLow (digits : List Char)
  | highWithoutLow (digits : List Char)
  deriving DecidableEq, Repr

/-- A complaint about the text at an offset in characters. -/
structure Fault where
  complaint : Complaint
  offset : Nat
  deriving DecidableEq, Repr

namespace Complaint

def surrogateMessage (digits : List Char) (reason : String) : String :=
  "Invalid unicode escape sequence. '" ++ String.ofList digits ++ " (" ++ reason ++
    ")' is not a valid UTF8 character"

def message : Complaint → String
  | colonExpected => "Expected colon after the string or word in object property"
  | digitExpected => "Expected digit"
  | digitExpectedAfterSign => "Expected digit following negative sign"
  | exponentExpected => "Expected plus, minus, or digit in number literal"
  | valueExpected => "Expected value after colon in object property"
  | moreThanOneValue => "Text cannot contain more than one JSON value"
  | unexpectedCloseBrace => "Unexpected close brace"
  | unexpectedCloseBracket => "Unexpected close bracket"
  | unexpectedColon => "Unexpected colon"
  | unexpectedComma => "Unexpected comma"
  | unexpectedToken => "Unexpected token"
  | unexpectedTokenInObject => "Unexpected token in object"
  | unexpectedWord => "Unexpected word"
  | unterminatedArray => "Unterminated array"
  | unterminatedComment => "Unterminated comment block"
  | unterminatedObject => "Unterminated object"
  | unterminatedString => "Unterminated string literal"
  | hexDigitsExpected => "Expected four hex digits"
  | invalidEscape => "Invalid escape"
  | escapeInSingleQuotes => "Invalid escape in single quote string"
  | escapeInDoubleQuotes => "Invalid escape in double quote string"
  | unpairedHigh digits => surrogateMessage digits "unpaired high surrogate"
  | unpairedLow digits => surrogateMessage digits "unpaired low surrogate"
  | highWithoutLow digits => surrogateMessage digits "high surrogate not followed by low surrogate"

end Complaint

/-- The complaint and its place: line and column count from one, columns in characters. -/
def Fault.message (text : List Char) (fault : Fault) : String :=
  let before := text.take fault.offset
  let column := (before.reverse.takeWhile (· ≠ '\n')).length + 1
  fault.complaint.message ++ " on line " ++ toString (before.count '\n' + 1) ++ " column " ++
    toString column

inductive Token.Kind where
  | openBrace
  | closeBrace
  | openBracket
  | closeBracket
  | comma
  | colon
  | null
  | bool (b : Bool)
  /-- A number as it is written. -/
  | number (source : List Char)
  | string (s : List Char)
  | word (source : List Char)
  /-- The end of the text. -/
  | finish
  /-- The text is malformed here, at the place of the fault. -/
  | broken (fault : Fault)

structure Token where
  kind : Token.Kind
  start : Nat

/-! ### Strings -/

/-- A character spelled after `\u` and the count of characters that spell it. -/
def scanUnicode (cs : List Char) : Except Complaint (Char × Nat) :=
  match cs with
  | a :: b :: c :: d :: rest =>
    match hexValue4? a b c d with
    | none => .error .hexDigitsExpected
    | some n =>
      if isLowSurrogate n then .error (.unpairedLow [a, b, c, d])
      else if isHighSurrogate n then
        match rest with
        | '\\' :: 'u' :: a' :: b' :: c' :: d' :: _ =>
          match hexValue4? a' b' c' d' with
          | none => .error .hexDigitsExpected
          | some m =>
            if isLowSurrogate m then .ok (ofSurrogates n m, 10)
            else .error (.highWithoutLow [a, b, c, d])
        | '\\' :: 'u' :: _ => .error .hexDigitsExpected
        | _ => .error (.unpairedHigh [a, b, c, d])
      else .ok (Char.ofNat n, 4)
  | _ => .error .hexDigitsExpected

def scanEscape (quote c : Char) : Except Complaint Char :=
  match c with
  | '"' => if quote = '"' then .ok '"' else .error .escapeInSingleQuotes
  | '\'' => if quote = '\'' then .ok '\'' else .error .escapeInDoubleQuotes
  | '\\' => .ok '\\'
  | '/' => .ok '/'
  | 'b' => .ok '\x08'
  | 'f' => .ok '\x0c'
  | 'n' => .ok '\n'
  | 'r' => .ok '\r'
  | 't' => .ok '\t'
  | _ => .error .invalidEscape

/-- Reads a string after its opening quote: its characters and the count through the closing quote.
A string without an end is faulty where it starts. -/
def scanString (quote : Char) (start : Nat) : List Char → Nat → Except Fault (List Char × Nat)
  | [], _ => .error ⟨.unterminatedString, start⟩
  | ['\\'], _ => .error ⟨.unterminatedString, start⟩
  | '\\' :: 'u' :: rest, p =>
    match scanUnicode rest with
    | .error complaint => .error ⟨complaint, p⟩
    | .ok (c, n) =>
      (scanString quote start (rest.drop n) (p + 2 + n)).map fun (s, count) =>
        (c :: s, count + 2 + n)
  | '\\' :: c :: rest, p =>
    match scanEscape quote c with
    | .error complaint => .error ⟨complaint, p⟩
    | .ok c => (scanString quote start rest (p + 2)).map fun (s, count) => (c :: s, count + 2)
  | c :: rest, p =>
    if c = quote then .ok ([], 1)
    else (scanString quote start rest (p + 1)).map fun (s, count) => (c :: s, count + 1)
termination_by cs => cs.length
decreasing_by all_goals (simp only [List.length_cons, List.length_drop]; omega)

/-! ### Numbers -/

/-- The count of characters of an exponent, if the text starts with one that stands at `p`. -/
def scanExponent (cs : List Char) (p : Nat) : Except Fault Nat :=
  let digits (count : Nat) (complaint : Complaint) (cs : List Char) : Except Fault Nat :=
    let n := (cs.takeWhile Char.isDigit).length
    if n = 0 then .error ⟨complaint, p + count⟩ else .ok (count + n)
  match cs with
  | 'e' :: '+' :: rest | 'e' :: '-' :: rest | 'E' :: '+' :: rest | 'E' :: '-' :: rest =>
    digits 2 .digitExpected rest
  | 'e' :: rest | 'E' :: rest => digits 1 .exponentExpected rest
  | _ => .ok 0

def scanFraction (cs : List Char) (p : Nat) : Except Fault Nat :=
  match cs with
  | '.' :: rest =>
    let n := (rest.takeWhile Char.isDigit).length
    if n = 0 then .error ⟨.digitExpected, p + 1⟩
    else (scanExponent (rest.drop n) (p + 1 + n)).map (1 + n + ·)
  | _ => scanExponent cs p

def scanMagnitude (cs : List Char) (p : Nat) : Except Fault Nat :=
  match cs with
  | '0' :: 'x' :: rest | '0' :: 'X' :: rest =>
    let n := (rest.takeWhile fun c => (hexValue? c).isSome).length
    if n = 0 then .error ⟨.digitExpected, p + 2⟩ else .ok (2 + n)
  | '0' :: rest => (scanFraction rest (p + 1)).map (1 + ·)
  | c :: _ =>
    if c.isDigit then
      let n := (cs.takeWhile Char.isDigit).length
      (scanFraction (cs.drop n) (p + n)).map (n + ·)
    else .error ⟨.digitExpectedAfterSign, p⟩
  | [] => .error ⟨.digitExpectedAfterSign, p⟩

def scanNumber (cs : List Char) (p : Nat) : Except Fault Nat :=
  match cs with
  | '+' :: rest | '-' :: rest => (scanMagnitude rest (p + 1)).map (1 + ·)
  | cs => scanMagnitude cs p

/-! ### Words and comments -/

/-- The text starts with a word that no letter or digit continues. -/
def startsWithWord (word cs : List Char) : Bool :=
  word.isPrefixOf cs &&
    match cs.drop word.length with
    | [] => true
    | c :: _ => !Text.isAlphanumeric c

def wordChars (cs : List Char) : List Char := cs.takeWhile fun c => !Text.isBlank c && c ≠ ':'

def isWordChar (c : Char) : Bool := Text.isAlphanumeric c || c = '-' || c = '_'

def lineLength : List Char → Nat
  | [] => 0
  | '\n' :: _ => 0
  | '\r' :: '\n' :: _ => 0
  | _ :: rest => lineLength rest + 1

/-- The count of characters through the end of a block comment, after its start. -/
def blockLength? : List Char → Option Nat
  | [] => none
  | '*' :: '/' :: _ => some 2
  | _ :: rest => (blockLength? rest).map (· + 1)

/-! ### Texts -/

/-- A token, a comment or white space at the start of a text, and how many characters follow its first
one. -/
inductive Scan where
  | skip (count : Nat)
  | token (kind : Token.Kind) (count : Nat)

def scan (c : Char) (rest : List Char) (p : Nat) : Scan :=
  if Text.isBlank c then .skip 0
  else
    match c with
    | '\x7b' => .token .openBrace 0
    | '\x7d' => .token .closeBrace 0
    | '[' => .token .openBracket 0
    | ']' => .token .closeBracket 0
    | ',' => .token .comma 0
    | ':' => .token .colon 0
    | '/' =>
      match rest with
      | '/' :: comment => .skip (1 + lineLength comment)
      | '*' :: comment =>
        match blockLength? comment with
        | some n => .skip (1 + n)
        | none => .token (.broken ⟨.unterminatedComment, p⟩) 0
      | _ => .token (.broken ⟨.unexpectedToken, p⟩) 0
    | _ =>
      if c = '"' ∨ c = '\'' then
        match scanString c p rest (p + 1) with
        | .ok (s, n) => .token (.string s) n
        | .error fault => .token (.broken fault) 0
      else if c = '-' ∨ c = '+' ∨ c.isDigit then
        match scanNumber (c :: rest) p with
        | .ok n => .token (.number ((c :: rest).take n)) (n - 1)
        | .error fault => .token (.broken fault) 0
      else if startsWithWord "true".toList (c :: rest) then .token (.bool true) 3
      else if startsWithWord "false".toList (c :: rest) then .token (.bool false) 4
      else if startsWithWord "null".toList (c :: rest) then .token .null 3
      else
        let word := wordChars (c :: rest)
        if word.all isWordChar then .token (.word word) (word.length - 1)
        else .token (.broken ⟨.unexpectedToken, p⟩) 0

def tokensFrom (cs : List Char) (p : Nat) : List Token :=
  match cs with
  | [] => [⟨.finish, p⟩]
  | c :: rest =>
    match scan c rest p with
    | .skip n => tokensFrom (rest.drop n) (p + 1 + n)
    | .token (.broken fault) _ => [⟨.broken fault, p⟩]
    | .token kind n => ⟨kind, p⟩ :: tokensFrom (rest.drop n) (p + 1 + n)
termination_by cs.length
decreasing_by all_goals (simp only [List.length_cons, List.length_drop]; omega)

def tokens (cs : List Char) : List Token := tokensFrom cs 0

end PolicyLint.Jsonc
