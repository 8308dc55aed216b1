import PolicyLint.Json.Fault

/-!
# JSON tokens

`tokens` splits a text into tokens with their offsets. A value can be read in three ways: it is
decoded, it is skipped because nothing asks for it, or it is taken as the name of a variant. The
ways notice faults at different places, so a malformed token carries one fault for each.
-/

namespace PolicyLint.Json

open Decimal (Numeral)

/-- The place where no reading gets further, as each way of reading reports it. -/
structure Cut where
  decoded : Fault
  skipped : Fault
  named : Fault
  /-- The place is in a word that begins like null. -/
  inNull : Bool := false
  deriving DecidableEq, Repr

/-- A cut that the ways of reading report as given. -/
def Cut.ways (decoded skipped named : Fault) : Cut := { decoded, skipped, named }

def Cut.all (complaint : Complaint) (offset : Nat) : Cut :=
  .ways ⟨complaint, offset⟩ ⟨complaint, offset⟩ ⟨complaint, offset⟩

/-- The cut of a malformed number or word that starts at `start`, which names no variant. -/
def Cut.scalar (start : Nat) (decoded skipped : Fault) : Cut :=
  .ways decoded skipped ⟨.expectedValue, start + 1⟩

inductive Token.Kind where
  | openBrace
  | closeBrace
  | openBracket
  | closeBracket
  | comma
  | colon
  | null
  | bool (b : Bool)
  /-- A numeral and the offset at which its value leaves the range of numbers, should it do so. -/
  | number (n : Numeral) (beyond : Nat)
  /-- A closed string and its text, unless a surrogate in it has no partner. -/
  | string (content : Except Fault String)
  /-- A character that begins no token. -/
  | stray
  /-- The end of the text. -/
  | finish
  /-- A string that cannot be skipped. -/
  | brokenString (cut : Cut)
  /-- A malformed number or word. -/
  | broken (cut : Cut)

structure Token where
  kind : Token.Kind
  start : Nat
  stop : Nat

def isSpace (c : Char) : Bool := c = ' ' || c = '\t' || c = '\n' || c = '\r'

def byteLength (cs : List Char) : Nat := cs.foldl (fun n c => n + c.utf8Size) 0

/-! ### Strings -/

def hexValue? (c : Char) : Option Nat :=
  if '0' ≤ c ∧ c ≤ '9' then some (c.toNat - '0'.toNat)
  else if 'a' ≤ c ∧ c ≤ 'f' then some (c.toNat - 'a'.toNat + 10)
  else if 'A' ≤ c ∧ c ≤ 'F' then some (c.toNat - 'A'.toNat + 10)
  else none

def hexValue4? (a b c d : Char) : Option Nat := do
  let a ← hexValue? a
  let b ← hexValue? b
  let c ← hexValue? c
  let d ← hexValue? d
  return ((a * 16 + b) * 16 + c) * 16 + d

def shortEscape? : Char → Option Char
  | '"' => some '"'
  | '\\' => some '\\'
  | '/' => some '/'
  | 'b' => some '\x08'
  | 'f' => some '\x0c'
  | 'n' => some '\n'
  | 'r' => some '\r'
  | 't' => some '\t'
  | _ => none

def isHighSurrogate (n : Nat) : Bool := 0xD800 ≤ n && n ≤ 0xDBFF

def isLowSurrogate (n : Nat) : Bool := 0xDC00 ≤ n && n ≤ 0xDFFF

def ofSurrogates (high low : Nat) : Char :=
  Char.ofNat ((high - 0xD800) * 0x400 + (low - 0xDC00) + 0x10000)

structure StringScan where
  /-- The text, or why it cannot be decoded. -/
  content : Except Fault (List Char)
  /-- Why the string cannot even be skipped. -/
  skip : Option Fault
  /-- The count of characters through the closing quote. -/
  count : Nat

namespace StringScan

def stop (complaint : Complaint) (offset : Nat) : StringScan :=
  ⟨.error ⟨complaint, offset⟩, some ⟨complaint, offset⟩, 0⟩

/-- The scan with a character in front that took `count` characters of the text. -/
def push (s : StringScan) (c : Char) (count : Nat) : StringScan :=
  { s with content := s.content.map (c :: ·), count := s.count + count }

/-- The scan with characters in front that only skipping accepts. -/
def refuse (s : StringScan) (fault : Fault) (count : Nat) : StringScan :=
  { s with content := .error fault, count := s.count + count }

end StringScan

def lowSurrogate? : List Char → Option Nat
  | '\\' :: 'u' :: a :: b :: c :: d :: _ => (hexValue4? a b c d).filter isLowSurrogate
  | _ => none

/-- The fault of a high surrogate before `rest`, which starts at `offset`. Where `rest` is itself
malformed its own fault comes first. -/
def unpaired? (rest : List Char) (offset : Nat) : Option Fault :=
  match rest with
  | [] => none
  | '\\' :: [] => none
  | '\\' :: 'u' :: a :: b :: c :: d :: _ =>
    (hexValue4? a b c d).map fun _ => ⟨.loneSurrogate, offset + 6⟩
  | '\\' :: 'u' :: _ => none
  | '\\' :: _ => some ⟨.brokenSurrogatePair, offset + 2⟩
  | _ => some ⟨.brokenSurrogatePair, offset + 1⟩

def scanString : List Char → Nat → StringScan
  | [], p => .stop .endInString p
  | '"' :: _, _ => ⟨.ok [], none, 1⟩
  | ['\\'], p => .stop .endInString (p + 1)
  | '\\' :: 'u' :: a :: b :: c :: d :: rest, p =>
    match hexValue4? a b c d with
    | none => .stop .invalidEscape (p + 6)
    | some n =>
      if isLowSurrogate n then (scanString rest (p + 6)).refuse ⟨.loneSurrogate, p + 6⟩ 6
      else if isHighSurrogate n then
        match lowSurrogate? rest with
        | some m => (scanString (rest.drop 6) (p + 12)).push (ofSurrogates n m) 12
        | none =>
          match unpaired? rest (p + 6) with
          | some fault => (scanString rest (p + 6)).refuse fault 6
          | none => (scanString rest (p + 6)).push '\x00' 6
      else (scanString rest (p + 6)).push (Char.ofNat n) 6
  | '\\' :: 'u' :: rest, p =>
    if 4 ≤ byteLength rest then .stop .invalidEscape (p + 6)
    else .stop .endInString (p + 2 + byteLength rest)
  | '\\' :: c :: rest, p =>
    match shortEscape? c with
    | some e => (scanString rest (p + 2)).push e 2
    | none => .stop .invalidEscape (p + 2)
  | c :: rest, p =>
    if c.toNat < 0x20 then
      ⟨.error ⟨.controlCharacter, p + 1⟩, some ⟨.controlCharacter, p⟩, 0⟩
    else (scanString rest (p + c.utf8Size)).push c 1
termination_by cs => cs.length
decreasing_by all_goals (simp only [List.length_cons, List.length_drop]; omega)

/-! ### Numbers and words -/

def greatestExponent : Nat := 2147483647

/-- The offset after the digit with which an exponent exceeds the greatest one, or after the last
digit. -/
def beyondExponent : List Char → Nat → Nat → Nat
  | [], _, p => p
  | c :: rest, n, p =>
    let n := n * 10 + Decimal.digitValue c
    if greatestExponent < n then p + 1 else beyondExponent rest n (p + 1)

/-- A numeral, the offset at which it leaves the range and its count of characters. -/
structure NumberScan where
  numeral : Numeral
  beyond : Nat
  count : Nat

def twice (complaint : Complaint) (offset : Nat) : Fault × Fault :=
  (⟨complaint, offset⟩, ⟨complaint, offset⟩)

def scanExponent (sofar : NumberScan) (rest : List Char) (offset : Nat) :
    Except (Fault × Fault) NumberScan :=
  match rest with
  | 'e' :: rest | 'E' :: rest =>
    let (below, signs, rest) :=
      match rest with
      | '+' :: rest => (false, 1, rest)
      | '-' :: rest => (true, 1, rest)
      | rest => (false, 0, rest)
    let p := offset + 1 + signs
    match rest with
    | [] => .error (⟨.endInValue, p⟩, ⟨.invalidNumber, p⟩)
    | c :: _ =>
      if c.isDigit then
        let digits := rest.takeWhile Char.isDigit
        .ok
          { numeral := { sofar.numeral with exponent := some (below, digits) }
            beyond := if below then p + digits.length else beyondExponent digits 0 p
            count := sofar.count + 1 + signs + digits.length }
      else .error (twice .invalidNumber (p + 1))
  | _ => .ok sofar

def scanNumber (cs : List Char) (offset : Nat) : Except (Fault × Fault) NumberScan :=
  let (negative, signs, cs) :=
    match cs with
    | '-' :: rest => (true, 1, rest)
    | cs => (false, 0, cs)
  let p := offset + signs
  match cs with
  | [] => .error (⟨.endInValue, p⟩, ⟨.invalidNumber, p⟩)
  | c :: _ =>
    if !c.isDigit then .error (twice .invalidNumber (p + 1))
    else
      let whole := cs.takeWhile Char.isDigit
      if c = '0' ∧ 1 < whole.length then .error (twice .invalidNumber (p + 2))
      else
        let p := p + whole.length
        let count := signs + whole.length
        match cs.dropWhile Char.isDigit with
        | '.' :: rest =>
          let fraction := rest.takeWhile Char.isDigit
          if fraction.isEmpty then
            if rest.isEmpty then .error (⟨.endInValue, p + 1⟩, ⟨.invalidNumber, p + 1⟩)
            else .error (twice .invalidNumber (p + 2))
          else
            let p := p + 1 + fraction.length
            scanExponent ⟨{ negative, whole, fraction }, p, count + 1 + fraction.length⟩
              (rest.dropWhile Char.isDigit) p
        | rest => scanExponent ⟨{ negative, whole }, p, count⟩ rest p

/-- Matches the letters of a word against a text. The letters before the first wrong one count. -/
def scanWord : List Char → List Char → Nat → Except (Fault × Fault) Unit
  | [], _, _ => .ok ()
  | _ :: _, [], p => .error (twice .endInValue p)
  | l :: letters, c :: rest, p =>
    if c = l then scanWord letters rest (p + 1) else .error (twice .expectedIdent (p + 1))

/-! ### Texts -/

def punctuation? : Char → Option Token.Kind
  | '\x7b' => some .openBrace
  | '\x7d' => some .closeBrace
  | '[' => some .openBracket
  | ']' => some .closeBracket
  | ',' => some .comma
  | ':' => some .colon
  | _ => none

/-- The word that begins with a letter: its other letters and its kind. -/
def word? : Char → Option (List Char × Token.Kind)
  | 'n' => some (['u', 'l', 'l'], .null)
  | 't' => some (['r', 'u', 'e'], .bool true)
  | 'f' => some (['a', 'l', 's', 'e'], .bool false)
  | _ => none

/-- The token that starts with `c` before `rest`, and how many characters of `rest` belong to it. -/
def scanToken (c : Char) (rest : List Char) (offset : Nat) : Token × Nat :=
  match punctuation? c with
  | some kind => (⟨kind, offset, offset + 1⟩, 0)
  | none =>
    match word? c with
    | some (letters, kind) =>
      match scanWord letters rest (offset + 1) with
      | .ok () => (⟨kind, offset, offset + 1 + letters.length⟩, letters.length)
      | .error (read, skip) =>
        (⟨.broken { Cut.scalar offset read skip with inNull := c = 'n' }, offset, offset⟩, 0)
    | none =>
      if c = '"' then
        let s := scanString rest (offset + 1)
        match s.skip with
        | none =>
          (⟨.string (s.content.map String.ofList), offset,
            offset + 1 + byteLength (rest.take s.count)⟩, s.count)
        | some skip =>
          let read :=
            match s.content with
            | .error fault => fault
            | .ok _ => skip
          (⟨.brokenString (.ways read skip read), offset, offset⟩, 0)
      else if c = '-' || c.isDigit then
        match scanNumber (c :: rest) offset with
        | .ok s => (⟨.number s.numeral s.beyond, offset, offset + s.count⟩, s.count - 1)
        | .error (read, skip) => (⟨.broken (.scalar offset read skip), offset, offset⟩, 0)
      else (⟨.stray, offset, offset + c.utf8Size⟩, 0)

def Token.isBroken (t : Token) : Bool :=
  match t.kind with
  | .broken _ | .brokenString _ => true
  | _ => false

/-- The tokens of a text that starts at `offset`; the last one is its end or is malformed. -/
def tokensFrom (cs : List Char) (offset : Nat) : List Token :=
  match cs with
  | [] => [⟨.finish, offset, offset⟩]
  | c :: rest =>
    if isSpace c then tokensFrom rest (offset + 1)
    else
      let t := scanToken c rest offset
      if t.1.isBroken then [t.1] else t.1 :: tokensFrom (rest.drop t.2) t.1.stop
termination_by cs.length
decreasing_by all_goals (simp only [List.length_cons, List.length_drop]; omega)

def tokens (cs : List Char) : List Token := tokensFrom cs 0

end PolicyLint.Json
