import PolicyLint.Digest.Blake3
import PolicyLint.Text.Bytes

/-!
# Fingerprints and keys

The fingerprint of a text is its BLAKE3 digest. The key of a check is the digest of a stream that
names the fingerprints of the file, the rule and the model; each part comes with a label and its
length, so the stream tells where one part ends and the next begins.
-/

namespace PolicyLint

def fingerprint (s : String) : String := Blake3.hex (utf8 s)

def lengthBytes (n : Nat) : List UInt8 :=
  (List.range 8).map fun i => (n >>> (8 * i)).toUInt8

/-- One part of a key: its label, its length and its bytes. -/
def keyPart (label part : String) : List UInt8 :=
  utf8 label ++ lengthBytes (utf8 part).length ++ utf8 part

def keyStream (file rule model : String) : List UInt8 :=
  keyPart "file" file ++ keyPart "rule" rule ++ keyPart "model" model

/-- The key under which the outcome of a check is stored. -/
structure Key where
  text : String
  deriving DecidableEq, Repr, Hashable

def Key.of (file rule model : String) : Key := ⟨Blake3.hex (keyStream file rule model)⟩

end PolicyLint
