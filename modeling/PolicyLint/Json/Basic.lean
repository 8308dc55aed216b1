import PolicyLint.Decimal.Numeral

/-!
# JSON values

A JSON value keeps its numbers as written numerals and its object members in order.
-/

namespace PolicyLint

open Decimal (Numeral)

inductive Json where
  | null
  | bool (b : Bool)
  | number (n : Numeral)
  | string (s : String)
  | array (items : List Json)
  | object (members : List (String × Json))
  deriving Inhabited, Repr

namespace Json

def nat (n : Nat) : Json := .number (.ofNat n)

def objectOf (members : List (Option (String × Json))) : Json :=
  .object (members.filterMap id)

def field (name : String) (value : Json) : Option (String × Json) := some (name, value)

/-- A member that is present only with a value. -/
def field? (name : String) (value : Option Json) : Option (String × Json) :=
  value.map (name, ·)

end Json

end PolicyLint
