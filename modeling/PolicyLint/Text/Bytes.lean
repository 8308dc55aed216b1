/-!
# Bytes of a text
-/

namespace PolicyLint

def utf8 (s : String) : List UInt8 := s.toUTF8.data.toList

def charBytes (c : Char) : List UInt8 := utf8 (String.singleton c)

end PolicyLint
