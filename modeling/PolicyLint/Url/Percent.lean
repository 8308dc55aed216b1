import PolicyLint.Text.Bytes

/-!
# Percent signs

A byte that may not stand in a part of an address is written as a percent sign and two digits. Which
characters that concerns depends on the part; what is neither a visible ASCII character nor a blank is
always concerned.
-/

namespace PolicyLint.Url

def hexDigit (n : Nat) : Char := (Nat.digitChar n).toUpper

def percentByte (b : UInt8) : List Char :=
  ['%', hexDigit (b.toNat / 16), hexDigit (b.toNat % 16)]

/-- A character, percent-encoded if it is one of the given marks or no visible ASCII character. -/
def encodeChar (marks : List Char) (c : Char) : List Char :=
  if c.toNat < 0x20 || 0x7F ≤ c.toNat || marks.contains c then (charBytes c).flatMap percentByte
  else [c]

def encode (marks : List Char) (cs : List Char) : List Char := cs.flatMap (encodeChar marks)

def fragmentMarks : List Char := [' ', '"', '<', '>', '`']

def pathMarks : List Char := fragmentMarks ++ ['#', '?', '\x7b', '\x7d']

def userMarks : List Char :=
  pathMarks ++ ['/', ':', ';', '=', '@', '[', '\\', ']', '^', '|']

def queryMarks : List Char := [' ', '"', '#', '<', '>']

def hexValue? (c : Char) : Option Nat :=
  if c.isDigit then some (c.toNat - 48)
  else if 'a' ≤ c && c ≤ 'f' then some (c.toNat - 87)
  else if 'A' ≤ c && c ≤ 'F' then some (c.toNat - 55)
  else none

def decode : List Char → List UInt8
  | [] => []
  | '%' :: a :: b :: rest =>
    match hexValue? a, hexValue? b with
    | some a, some b => (16 * a + b).toUInt8 :: decode rest
    | _, _ => charBytes '%' ++ decode (a :: b :: rest)
  | c :: rest => charBytes c ++ decode rest
  termination_by cs => cs.length

/-- The text that a text with percent signs stands for, if it is one. -/
def decoded? (cs : List Char) : Option (List Char) :=
  (String.fromUTF8? ⟨(decode cs).toArray⟩).map String.toList

end PolicyLint.Url
