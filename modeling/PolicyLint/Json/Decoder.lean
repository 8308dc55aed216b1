import PolicyLint.Json.Node

/-!
# Decoding JSON values

A `Decoder` makes a value of a type out of a located JSON value. A `Record` lists the fields of a
structure; it reads an object with these fields as well as an array of their values in order. What
is wrong comes out in the order of the text.
-/

namespace PolicyLint.Json

open Decimal (Binary)

/-- Where a value comes from: read in its text, or a value that was read before. -/
inductive Source where
  | text
  | value
  deriving DecidableEq

/-- Makes an `α` out of a located value. -/
abbrev Decoder (α : Type) := Source → Node → Except Fault α

def Number.found : Number → Found
  | natural n => .integer n
  | negative n => .integer (-n)
  | real x => .real x

def numberAt (n : Decimal.Numeral) (beyond : Nat) : Except Fault Number :=
  match number? n with
  | some x => .ok x
  | none => .error ⟨.numberOutOfRange, beyond⟩

namespace Node

/-- What kind of value this is. A malformed scalar has no kind. -/
def found : Node → Except Fault Found
  | null _ _ => .ok .null
  | bool b _ _ => .ok (.bool b)
  | number n beyond _ _ => (numberAt n beyond).map Number.found
  | string content _ _ => content.map .string
  | array _ _ _ => .ok .sequence
  | object _ _ _ => .ok .map
  | broken _ cut => .error cut.decoded

def mismatch (node : Node) (expected : String) : Fault :=
  match node.found with
  | .ok found => ⟨.invalidType found expected, node.anchor⟩
  | .error fault => fault

end Node

namespace Decoder

def string : Decoder String
  | _, .string content _ _ => content
  | _, node => .error (node.mismatch "a string")

def bool : Decoder Bool
  | _, .bool b _ _ => .ok b
  | _, node => .error (node.mismatch "a boolean")

def natUpTo (greatest : Nat) (expected : String) : Decoder Nat
  | _, .number n beyond start stop => do
    match ← numberAt n beyond with
    | .natural k =>
      if k ≤ greatest then .ok k else .error ⟨.invalidValue (.integer k) expected, stop⟩
    | .negative k => .error ⟨.invalidValue (.integer (-k)) expected, stop⟩
    | .real _ => .error (Node.mismatch (.number n beyond start stop) expected)
  | _, node => .error (node.mismatch expected)

def nat32 : Decoder Nat := natUpTo 0xFFFFFFFF "u32"

def nat64 : Decoder Nat := natUpTo greatestWord "u64"

def count : Decoder Nat := natUpTo greatestWord "usize"

def single : Decoder Binary
  | _, .number n beyond _ _ => (numberAt n beyond).map (·.toBinary Decimal.binary32)
  | _, node => .error (node.mismatch "f32")

def unit : Decoder Unit
  | _, .null _ _ => .ok ()
  | _, node => .error (node.mismatch "unit")

/-- A value or nothing. What begins like null is taken for it. -/
def optional {α : Type} (d : Decoder α) : Decoder (Option α)
  | _, .null _ _ => .ok none
  | source, .broken start cut =>
    if cut.inNull then .error cut.decoded else (d source (.broken start cut)).map some
  | source, node => (d source node).map some

def items {α : Type} (d : Decoder α) (source : Source) : List Node → Except Fault (List α)
  | [] => .ok []
  | node :: rest => do
    let a ← d source node
    let rest ← items d source rest
    return a :: rest

def list {α : Type} (d : Decoder α) : Decoder (List α)
  | source, .array _ nodes ending => do
    let as ← items d source nodes
    match ending with
    | .ok _ => .ok as
    | .error cut => .error cut.decoded
  | _, node => .error (node.mismatch "a sequence")

def variant {α : Type} (variants : List (String × α)) (name : String) (stop : Nat) :
    Except Fault α :=
  match variants.lookup name with
  | some a => .ok a
  | none => .error ⟨.unknownVariant name (variants.map (·.1)), stop⟩

def variantOfObject {α : Type} (variants : List (String × α)) (source : Source)
    (members : List (Key × Node)) (ending : Except Cut Nat) : Except Fault α :=
  match members with
  | [] =>
    match ending with
    | .ok stop => .error ⟨.expectedValue, stop⟩
    | .error cut => .error cut.named
  | (key, value) :: rest => do
    let name ← key.name
    let a ← variant variants name key.stop
    unit source value
    match rest, ending with
    | (next, _) :: _, _ => .error ⟨.expectedValue, next.before⟩
    | [], .ok _ => .ok a
    | [], .error cut => .error cut.named

/-- One of several variants, written as its name or as an object that maps the name to null. -/
def variants {α : Type} (variants : List (String × α)) : Decoder α
  | _, .string content _ stop => do
    let name ← content
    variant variants name stop
  | .text, .object _ members ending => variantOfObject variants .text members ending
  | .value, .object _ members ending =>
    match members with
    | [_] => variantOfObject variants .value members ending
    | _ => .error ⟨.invalidValue .map "map with a single key", 0⟩
  | .text, .broken _ cut => .error cut.named
  | .text, node => .error ⟨.expectedValue, node.start + 1⟩
  | .value, node => .error (node.mismatch "string or map")

end Decoder

/-! ### Records -/

/-- A field of a structure. -/
structure Field (α : Type) where
  name : String
  decode : Decoder α
  /-- The value when an object lacks the field. -/
  absent : Option α := none
  /-- The value when an array ends before the field. -/
  missing : Option α := none

namespace Field

def required {α : Type} (name : String) (decode : Decoder α) : Field α := { name, decode }

def withDefault {α : Type} (name : String) (decode : Decoder α) (value : α) : Field α :=
  { name, decode, absent := some value, missing := some value }

def optional {α : Type} (name : String) (decode : Decoder α) : Field (Option α) :=
  { name, decode := decode.optional, absent := some none, missing := some none }

end Field

inductive Fields : List Type → Type 1 where
  | nil : Fields []
  | cons {α : Type} {αs : List Type} (field : Field α) (rest : Fields αs) : Fields (α :: αs)

def Values : List Type → Type
  | [] => Unit
  | α :: αs => α × Values αs

def Draft : List Type → Type
  | [] => Unit
  | α :: αs => Option α × Draft αs

namespace Fields

def names {αs : List Type} : Fields αs → List String
  | nil => []
  | cons field rest => field.name :: rest.names

def empty {αs : List Type} : Fields αs → Draft αs
  | nil => ()
  | cons _ rest => (none, rest.empty)

def filled {αs : List Type} : Fields αs → Draft αs → List String
  | nil, _ => []
  | cons field rest, (value, draft) =>
    if value.isSome then field.name :: rest.filled draft else rest.filled draft

/-- Decodes the value of a field into a draft. A draft is kept when the name is unknown. -/
def set {αs : List Type} (source : Source) (name : String) (node : Node) :
    Fields αs → Draft αs → Except Fault (Draft αs)
  | nil, draft => .ok draft
  | cons field rest, (value, draft) =>
    if field.name = name then do
      let a ← field.decode source node
      return (some a, draft)
    else do
      let draft ← rest.set source name node draft
      return (value, draft)

/-- The values of a draft, or the first field that lacks one. -/
def complete {αs : List Type} : Fields αs → Draft αs → Except String (Values αs)
  | nil, _ => .ok ()
  | cons field rest, (value, draft) =>
    match value.or field.absent with
    | none => .error field.name
    | some a => do
      let values ← rest.complete draft
      return (a, values)

/-- Decodes items in the order of the fields, `index` being the count of fields before. What remains
is returned with the values. -/
def ofItems {αs : List Type} (source : Source) (title : String) (ending : Except Cut Nat)
    (index : Nat) : Fields αs → List Node → Except Fault (Values αs × List Node)
  | nil, nodes => .ok ((), nodes)
  | cons field rest, node :: nodes => do
    let a ← field.decode source node
    let (values, left) ← rest.ofItems source title ending (index + 1) nodes
    return ((a, values), left)
  | cons field rest, [] =>
    match ending, field.missing with
    | .error cut, _ => .error cut.decoded
    | .ok stop, none => .error ⟨.invalidLength index title, stop⟩
    | .ok _, some a => do
      let (values, left) ← rest.ofItems source title ending (index + 1) []
      return ((a, values), left)

/-- Decodes members into a draft. Unless others are tolerated, each has to name a field. -/
def ofMembers {αs : List Type} (source : Source) (fields : Fields αs) (tolerant : Bool) :
    List (Key × Node) → Draft αs → Except Fault (Draft αs)
  | [], draft => .ok draft
  | (key, node) :: rest, draft => do
    let name ← key.name
    if (fields.filled draft).contains name then .error ⟨.duplicateField name, key.after⟩
    else if fields.names.contains name then
      let draft ← fields.set source name node draft
      fields.ofMembers source tolerant rest draft
    else if tolerant then
      node.skip
      fields.ofMembers source tolerant rest draft
    else .error ⟨.unknownField name fields.names, key.after⟩

end Fields

structure Record (αs : List Type) where
  /-- The name of the structure in messages. -/
  title : String
  fields : Fields αs
  /-- Whether members that name no field are passed over. -/
  tolerant : Bool := false

namespace Record

/-- What an array with too few items should have been. -/
def arrayTitle {αs : List Type} (r : Record αs) : String :=
  "struct " ++ r.title ++ " with " ++ toString αs.length ++
    (if αs.length = 1 then " element" else " elements")

def surplus (source : Source) (length : Nat) : List Node → Except Cut Nat → Option Fault
  | [], .ok _ => none
  | [], .error cut =>
    match cut.decoded.complaint with
    | .expectedCommaOrBracket | .endInValue => some ⟨.trailingCharacters, cut.decoded.offset⟩
    | _ => some cut.decoded
  | node :: _, _ =>
    match source with
    | .text => some ⟨.trailingCharacters, node.start + 1⟩
    | .value => some ⟨.invalidLength length "fewer elements in array", 0⟩

def decode {αs : List Type} (r : Record αs) : Decoder (Values αs)
  | source, .object _ members ending => do
    let draft ← r.fields.ofMembers source r.tolerant members r.fields.empty
    match ending with
    | .error cut => .error cut.decoded
    | .ok stop => (r.fields.complete draft).mapError fun name => ⟨.missingField name, stop⟩
  | source, .array _ nodes ending => do
    let (values, left) ← r.fields.ofItems source r.arrayTitle ending 0 nodes
    match surplus source nodes.length left ending with
    | some fault => .error fault
    | none => .ok values
  | _, node => .error (node.mismatch ("struct " ++ r.title))

def decoder {αs : List Type} {α : Type} (r : Record αs) (make : Values αs → α) : Decoder α
  | source, node => (r.decode source node).map make

end Record

/-- The value of a text, all of which it has to take up. -/
def Decoder.ofChars {α : Type} (d : Decoder α) (cs : List Char) : Except Fault α := do
  let document := Document.ofChars cs
  let a ← d .text document.root
  match document.trailing with
  | some fault => .error fault
  | none => .ok a

def Decoder.ofText {α : Type} (d : Decoder α) (s : String) : Except String α :=
  (d.ofChars s.toList).mapError (Fault.message s.toList)

def Decoder.ofJson {α : Type} (d : Decoder α) (j : Json) : Except String α :=
  (d .value (.ofJson j)).mapError (·.complaint.message)

end PolicyLint.Json
