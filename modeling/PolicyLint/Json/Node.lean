import PolicyLint.Json.Token
import PolicyLint.Json.Number
import PolicyLint.Json.Basic

/-!
# Located JSON values

A `Node` is a JSON value with the offsets at which its parts stand in a text. Where the text is
malformed the value ends in a cut, so a document can be decoded up to its first fault, and faults of
the text and of the values in it come out in the order of the text.
-/

namespace PolicyLint.Json

open Decimal (Numeral)

structure Key where
  /-- The name, unless a surrogate in it has no partner. -/
  name : Except Fault String
  /-- The offset of the brace or comma in front of it. -/
  before : Nat
  /-- The offset after its closing quote. -/
  stop : Nat
  /-- The offset of the token that follows, or after it if it is a closing brace. -/
  after : Nat

/-- A value in a text. -/
inductive Node where
  | null (start stop : Nat)
  | bool (b : Bool) (start stop : Nat)
  | number (n : Numeral) (beyond start stop : Nat)
  | string (content : Except Fault String) (start stop : Nat)
  /-- Items and the offset after the closing bracket, or the cut in place of what follows them. -/
  | array (start : Nat) (items : List Node) (ending : Except Cut Nat)
  | object (start : Nat) (members : List (Key × Node)) (ending : Except Cut Nat)
  /-- No value stands where one is due. -/
  | broken (start : Nat) (cut : Cut)
  deriving Inhabited

namespace Node

def start : Node → Nat
  | null start _ => start
  | bool _ start _ => start
  | number _ _ start _ => start
  | string _ start _ => start
  | array start _ _ => start
  | object start _ _ => start
  | broken start _ => start

/-- The offset that a complaint about the kind of the value points at: after a scalar, before a
container. -/
def anchor : Node → Nat
  | null _ stop => stop
  | bool _ _ stop => stop
  | number _ _ _ stop => stop
  | string _ _ stop => stop
  | array start _ _ => start
  | object start _ _ => start
  | broken start _ => start

end Node

inductive Frame where
  /-- The items so far, the last one first. -/
  | array (start : Nat) (items : List Node)
  /-- The members so far, the last one first, and the key of the member that is due. -/
  | object (start : Nat) (members : List (Key × Node)) (key : Key)

inductive Due where
  /-- A value, at the start of the text or after a colon. -/
  | value
  /-- An item or the end of an empty array. -/
  | firstItem (start : Nat)
  /-- An item, after a comma. -/
  | item (start : Nat) (items : List Node)
  /-- A key or the end of an empty object. -/
  | firstKey (start : Nat)
  /-- A key, after a comma. -/
  | key (start : Nat) (members : List (Key × Node)) (comma : Nat)
  /-- The colon after a key. -/
  | colon (start : Nat) (members : List (Key × Node)) (key : Key)
  /-- A comma or a bracket after an item. -/
  | afterItem (start : Nat) (items : List Node)
  /-- A comma or a brace after a member. -/
  | afterMember (start : Nat) (members : List (Key × Node))
  /-- Nothing, after the value of the whole text. -/
  | nothing (root : Node)

/-- A value takes its place in the innermost container. -/
def place (node : Node) : List Frame → Due × List Frame
  | [] => (.nothing node, [])
  | .array start items :: frames => (.afterItem start (node :: items), frames)
  | .object start members key :: frames => (.afterMember start ((key, node) :: members), frames)

/-- The whole value when reading stops inside a value. -/
def unwind (node : Node) (cut : Cut) : List Frame → Node
  | [] => node
  | .array start items :: frames =>
    unwind (.array start (node :: items).reverse (.error cut)) cut frames
  | .object start members key :: frames =>
    unwind (.object start ((key, node) :: members).reverse (.error cut)) cut frames

/-- The outcome of reading: the value of the text and whether anything follows it. -/
structure Document where
  root : Node
  trailing : Option Fault

/-- The offset that a fault at a token points at: one byte into it. -/
def Token.peeked (t : Token) : Nat :=
  match t.kind with
  | .finish => t.start
  | _ => t.start + 1

def Token.unexpected (t : Token) (atEnd other : Complaint) : Cut :=
  match t.kind with
  | .finish => .all atEnd t.start
  | _ => .all other t.peeked

/-- The offset of the token that follows a key, after it if it closes the object. -/
def afterKey : List Token → Nat
  | [] => 0
  | t :: _ =>
    match t.kind with
    | .closeBrace => t.stop
    | _ => t.start

inductive Progress where
  | more (due : Due) (frames : List Frame)
  | done (document : Document)

def complete (node : Node) (frames : List Frame) : Progress :=
  let (due, frames) := place node frames
  .more due frames

def haltAtValue (start : Nat) (cut : Cut) (frames : List Frame) : Progress :=
  .done ⟨unwind (.broken start cut) cut frames, none⟩

def haltInside (container : Except Cut Nat → Node) (cut : Cut) (frames : List Frame) : Progress :=
  .done ⟨unwind (container (.error cut)) cut frames, none⟩

def readValue (t : Token) (frames : List Frame) : Progress :=
  match t.kind with
  | .null => complete (.null t.start t.stop) frames
  | .bool b => complete (.bool b t.start t.stop) frames
  | .number n beyond => complete (.number n beyond t.start t.stop) frames
  | .string content => complete (.string content t.start t.stop) frames
  | .openBracket => .more (.firstItem t.start) frames
  | .openBrace => .more (.firstKey t.start) frames
  | .broken cut | .brokenString cut => haltAtValue t.start cut frames
  | _ => haltAtValue t.start (t.unexpected .endInValue .expectedValue) frames

/-- A token where a key is due, `before` being the offset of the brace or comma in front of it. If the
text ends there, `atEnd` is the complaint. An object that names a variant ends at a comma, so the fault of
what follows the comma is `named`; the first key has none and its own fault counts. -/
def readKey (t : Token) (rest : List Token) (start : Nat) (members : List (Key × Node))
    (before : Nat) (atEnd : Complaint) (named : Option Fault) (frames : List Frame) : Progress :=
  match t.kind with
  | .string name => .more (.colon start members ⟨name, before, t.stop, afterKey rest⟩) frames
  | .brokenString cut =>
    haltInside (.object start members.reverse) { cut with named := named.getD cut.decoded } frames
  | .finish =>
    let skipped : Fault := ⟨.endInObject, t.start⟩
    haltInside (.object start members.reverse)
      (.ways ⟨atEnd, t.start⟩ skipped (named.getD skipped)) frames
  | _ =>
    let fault : Fault := ⟨.keyNotString, t.peeked⟩
    haltInside (.object start members.reverse) (.ways fault fault (named.getD fault)) frames

/-- Reads one token, `rest` being the tokens after it. -/
def readToken (t : Token) (rest : List Token) (due : Due) (frames : List Frame) : Progress :=
  match due with
  | .value => readValue t frames
  | .firstItem start =>
    match t.kind with
    | .closeBracket => complete (.array start [] (.ok t.stop)) frames
    | .finish => haltInside (.array start []) (.all .endInList t.start) frames
    | _ => readValue t (.array start [] :: frames)
  | .item start items =>
    match t.kind with
    | .closeBracket =>
      haltInside (.array start items.reverse)
        (.ways ⟨.trailingComma, t.peeked⟩ ⟨.expectedValue, t.peeked⟩ ⟨.trailingComma, t.peeked⟩) frames
    | .finish => haltInside (.array start items.reverse) (.all .endInValue t.start) frames
    | _ => readValue t (.array start items :: frames)
  | .firstKey start =>
    match t.kind with
    | .closeBrace => complete (.object start [] (.ok t.stop)) frames
    | _ =>
      readKey t rest start [] start .endInObject none frames
  | .key start members comma =>
    match t.kind with
    | .closeBrace =>
      haltInside (.object start members.reverse)
        (.ways ⟨.trailingComma, t.peeked⟩ ⟨.keyNotString, t.peeked⟩ ⟨.expectedValue, comma⟩) frames
    | _ =>
      readKey t rest start members comma .endInValue (some ⟨.expectedValue, comma⟩) frames
  | .colon start members key =>
    match t.kind with
    | .colon => .more .value (.object start members key :: frames)
    | _ =>
      haltAtValue t.start (t.unexpected .endInObject .expectedColon)
        (.object start members key :: frames)
  | .afterItem start items =>
    match t.kind with
    | .comma => .more (.item start items) frames
    | .closeBracket => complete (.array start items.reverse (.ok t.stop)) frames
    | _ =>
      haltInside (.array start items.reverse) (t.unexpected .endInList .expectedCommaOrBracket)
        frames
  | .afterMember start members =>
    match t.kind with
    | .comma => .more (.key start members t.start) frames
    | .closeBrace => complete (.object start members.reverse (.ok t.stop)) frames
    | .finish => haltInside (.object start members.reverse) (.all .endInObject t.start) frames
    | _ =>
      haltInside (.object start members.reverse)
        { Cut.all .expectedCommaOrBrace t.peeked with named := ⟨.expectedValue, t.start⟩ } frames
  | .nothing root =>
    match t.kind with
    | .finish => .done ⟨root, none⟩
    | _ => .done ⟨root, some ⟨.trailingCharacters, t.peeked⟩⟩

/-- Reads tokens until the value is final. A list of tokens ends with the end of its text, so it
does not run out before. -/
def readTokens : List Token → Due → List Frame → Document
  | [], _, frames => ⟨unwind (.broken 0 (.all .endInValue 0)) (.all .endInValue 0) frames, none⟩
  | t :: rest, due, frames =>
    match readToken t rest due frames with
    | .more due frames => readTokens rest due frames
    | .done document => document

namespace Document

def ofChars (cs : List Char) : Document := readTokens (tokens cs) .value []

end Document

namespace Node

mutual

def skip : Node → Except Fault Unit
  | .null _ _ => .ok ()
  | .bool _ _ _ => .ok ()
  | .number _ _ _ _ => .ok ()
  | .string _ _ _ => .ok ()
  | .array _ items ending => do
    skipItems items
    (ending.map fun _ => ()).mapError Cut.skipped
  | .object _ members ending => do
    skipMembers members
    (ending.map fun _ => ()).mapError Cut.skipped
  | .broken _ cut => .error cut.skipped

def skipItems : List Node → Except Fault Unit
  | [] => .ok ()
  | item :: rest => do
    skip item
    skipItems rest

def skipMembers : List (Key × Node) → Except Fault Unit
  | [] => .ok ()
  | (_, value) :: rest => do
    skip value
    skipMembers rest

end

mutual

/-- The node of a value that stands in no text: all its offsets are zero. -/
def ofJson : Json → Node
  | .null => .null 0 0
  | .bool b => .bool b 0 0
  | .number n => .number n 0 0 0
  | .string s => .string (.ok s) 0 0
  | .array items => .array 0 (ofItems items) (.ok 0)
  | .object members => .object 0 (ofMembers members) (.ok 0)

def ofItems : List Json → List Node
  | [] => []
  | j :: rest => ofJson j :: ofItems rest

def ofMembers : List (String × Json) → List (Key × Node)
  | [] => []
  | (k, j) :: rest => (⟨.ok k, 0, 0, 0⟩, ofJson j) :: ofMembers rest

end

end Node

end PolicyLint.Json
