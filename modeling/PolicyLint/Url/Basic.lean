import PolicyLint.Url.Host
import PolicyLint.Url.Path

/-!
# Web addresses

A `Url` is an address in its normal form: everything that can be written in several ways is written in
one. `Url.text` writes it.
-/

namespace PolicyLint

/-- What comes between the scheme and the path of an address. -/
structure Url.Authority where
  /-- The name of a user, percent-encoded. -/
  user : List Char := []
  /-- The password of the user, percent-encoded. -/
  password : List Char := []
  host : Option Url.Host := none
  /-- The port, unless it is the one of the scheme. -/
  port : Option Nat := none
  deriving DecidableEq, Repr

/-- An address. Its parts are percent-encoded. -/
structure Url where
  scheme : List Char
  authority : Option Url.Authority := none
  path : List Char
  /-- The query with its question mark. -/
  query : List Char := []
  /-- The fragment with its number sign. -/
  fragment : List Char := []
  deriving DecidableEq, Repr

namespace Url

def Authority.credentials (a : Authority) : List Char :=
  a.user ++ (if a.password.isEmpty then [] else ':' :: a.password)

def Authority.text (a : Authority) : List Char :=
  (if a.credentials.isEmpty then [] else a.credentials ++ ['@']) ++
    (a.host.map Host.text).getD [] ++
    (match a.port with
    | some port => ':' :: Nat.toDigits 10 port
    | none => [])

/-- The address as it is written. A path cannot be mistaken for an authority. -/
def text (u : Url) : String :=
  let authority :=
    match u.authority with
    | some a => ['/', '/'] ++ a.text
    | none => if ['/', '/'].isPrefixOf u.path then ['/', '.'] else []
  String.ofList (u.scheme ++ [':'] ++ authority ++ u.path ++ u.query ++ u.fragment)

def host? (u : Url) : Option Host := (u.authority.bind Authority.host).filter Host.isNamed

/-- The address without its user. The user stays if there is nothing to tell the service. -/
def anonymous (u : Url) : Url :=
  match u.authority with
  | none => u
  | some a =>
    let told :=
      match decoded? a.user with
      | none => false
      | some user => !user.isEmpty || (!a.password.isEmpty && (decoded? a.password).isSome)
    if told then { u with authority := some { a with user := [], password := [] } } else u

def webSchemes : List (List Char) := ["http".toList, "https".toList]

/-- The longest address that requests are sent to. -/
def longest : Nat := 65534

/-- The characters that can stand in a host, though requests cannot be sent to it. -/
def unsendable : List Char := ['"', '`', '\x7b', '\x7d']

def isSendable (u : Url) : Bool :=
  webSchemes.contains u.scheme &&
    !((u.authority.map Authority.text).getD []).any unsendable.contains &&
    u.text.utf8ByteSize ≤ longest

end Url

end PolicyLint
