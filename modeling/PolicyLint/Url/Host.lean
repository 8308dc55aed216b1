import PolicyLint.Domain.Basic
import PolicyLint.Url.Ipv6

/-!
# Hosts

The host of an address for the web is a name in plain form or an address of numbers. Other schemes have
hosts that mean nothing here.
-/

namespace PolicyLint.Url

inductive Host where
  | name (plain : List Char)
  | ipv4 (address : Ipv4)
  | ipv6 (address : Ipv6)
  deriving DecidableEq, Repr

namespace Host

def text : Host → List Char
  | name plain => plain
  | ipv4 address => address.text
  | ipv6 address => ['['] ++ address.text ++ [']']

def bracketed? (cs : List Char) : Option (Option Ipv6) :=
  if cs.head? = some '[' then
    some (if cs.getLast? = some ']' then Ipv6.ofText? cs.tail.dropLast else none)
  else none

def ofText? (cs : List Char) : Option Host :=
  match bracketed? cs with
  | some address => address.map ipv6
  | none => do
    let plain ← Domain.plain? (← decoded? cs)
    if plain.isEmpty then none
    else if Ipv4.isMeant plain then (Ipv4.ofText? plain).map ipv4
    else some (name plain)

def isRefused (c : Char) : Bool :=
  c = Char.ofNat 0 || [' ', '#', '/', ':', '<', '>', '?', '@', '[', '\\', ']', '^', '|'].contains c

/-- Reads a host of another scheme. -/
def ofOpaque? (cs : List Char) : Option Host :=
  match bracketed? cs with
  | some address => address.map ipv6
  | none => if cs.any isRefused then none else some (name (encode [] cs))

def isNamed (h : Host) : Bool := !h.text.isEmpty

end Host

end PolicyLint.Url
