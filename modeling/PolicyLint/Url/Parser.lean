import PolicyLint.Url.Basic

/-!
# Reading web addresses

`Url.ofText?` reads an address part by part: the scheme, the authority with user, host and port, the
path, the query and the fragment. The schemes of the web and that of files have rules of their own.
-/

namespace PolicyLint.Url

def isEdge (c : Char) : Bool := c.toNat ≤ 0x20

/-- The text without blanks at its ends and without tabs and line breaks. -/
def cleaned (cs : List Char) : List Char :=
  (((cs.dropWhile isEdge).reverse.dropWhile isEdge).reverse).filter fun c =>
    !(c = '\t' || c = '\n' || c = '\r')

def ports : List (List Char × Nat) :=
  [("http".toList, 80), ("https".toList, 443), ("ws".toList, 80), ("wss".toList, 443),
    ("ftp".toList, 21)]

def fileScheme : List Char := "file".toList

def isSchemeChar (c : Char) : Bool := c.isAlphanum || c = '+' || c = '-' || c = '.'

/-- The scheme of an address in small letters, and what follows its colon. -/
def splitScheme? (cs : List Char) : Option (List Char × List Char) :=
  if (cs.head?.map Char.isAlpha).getD false then
    match cs.dropWhile isSchemeChar with
    | ':' :: rest => some ((cs.takeWhile isSchemeChar).map Char.toLower, rest)
    | _ => none
  else none

def endsAuthority (special : Bool) (c : Char) : Bool := isSlash special c || c = '?' || c = '#'

/-- The user and the password in front of the last `@` of an authority, and what follows. -/
def readUser? (special : Bool) (cs : List Char) : Option (Authority × List Char) :=
  let region := cs.takeWhile fun c => !endsAuthority special c
  if !region.contains '@' then some ({}, cs)
  else
    let before := (region.reverse.dropWhile (· != '@')).reverse.dropLast
    let rest := cs.drop (before.length + 1)
    if before.isEmpty then
      if (rest.head?.map (endsAuthority special)).getD false then none else some ({}, rest)
    else
      let user := before.takeWhile (· != ':')
      let password := (before.dropWhile (· != ':')).tail
      some ({ user := encode userMarks user, password := encode userMarks password }, rest)

/-- The text of a host and what follows it. A colon between brackets belongs to the host. -/
def splitHost (special : Bool) : (inside : Bool) → List Char → List Char × List Char
  | _, [] => ([], [])
  | inside, c :: rest =>
    if endsAuthority special c || (c = ':' && !inside) then ([], c :: rest)
    else
      let (host, behind) := splitHost special (c = '[' || (c != ']' && inside)) rest
      (c :: host, behind)

/-- The port behind a host, and what follows it. The port of the scheme is left out. -/
def readPort? (default : Option Nat) : List Char → Option (Option Nat × List Char)
  | ':' :: rest =>
    let digits := rest.takeWhile Char.isDigit
    let rest := rest.drop digits.length
    let port := digits.foldl (fun n d => 10 * n + (d.toNat - 48)) 0
    if !(rest.head?.map (endsAuthority true)).getD true || 0xFFFF < port then none
    else if digits.isEmpty || some port = default then some (none, rest)
    else some (some port, rest)
  | cs => some (none, cs)

def readAuthority? (scheme : List Char) (special : Bool) (cs : List Char) :
    Option (Authority × List Char) := do
  let (user, cs) ← readUser? special cs
  let (text, cs) := splitHost special false cs
  let host ← if special then Host.ofText? text else Host.ofOpaque? text
  if !host.isNamed && (cs.head? = some ':' || !user.credentials.isEmpty) then none
  else
    let (port, cs) ← readPort? (ports.lookup scheme) cs
    return ({ user with host := some host, port }, cs)

def endsPath (c : Char) : Bool := c = '?' || c = '#'

def withQuery (u : Url) (special : Bool) (cs : List Char) : Url :=
  let marks := if special then '\'' :: queryMarks else queryMarks
  let query :=
    match cs with
    | '?' :: cs => '?' :: encode marks (cs.takeWhile (· != '#'))
    | _ => []
  let fragment :=
    match cs.dropWhile (· != '#') with
    | '#' :: cs => '#' :: encode fragmentMarks cs
    | _ => []
  { u with query, fragment }

/-- The address with what follows its authority: a path behind one slash, a query and a fragment. -/
def withRest (u : Url) (special : Bool) (cs : List Char) : Url :=
  let path := (readPath special false (cs.takeWhile fun c => !endsPath c)).text
  ({ u with path }).withQuery special (cs.dropWhile fun c => !endsPath c)

def dropSlash (special : Bool) : List Char → List Char
  | [] => []
  | c :: rest => if isSlash special c then rest else c :: rest

/-- Reads an address of the web behind its scheme. Any count of slashes can stand in front of the
authority. -/
def ofWeb? (scheme cs : List Char) : Option Url := do
  let (authority, cs) ← readAuthority? scheme true (cs.dropWhile (isSlash true))
  return ({ scheme, authority := some authority, path := [] } : Url).withRest true (dropSlash true cs)

def filePath (r : PathReading) : List Char := '/' :: r.text.dropWhile (· = '/')

def ofFile (host : Option Host) (cs : List Char) : Url :=
  let reading := readPath true true (cs.takeWhile fun c => !endsPath c)
  let host := if reading.onDrive then none else host
  ({ scheme := fileScheme, authority := some { host }, path := filePath reading } : Url).withQuery
    true (cs.dropWhile fun c => !endsPath c)

/-- The host of this machine, which is as good as none. -/
def localHost : Host := .name "localhost".toList

/-- Reads the address of a file behind its scheme. The letter of a drive is no host. -/
def ofFile? (cs : List Char) : Option Url :=
  match cs with
  | a :: b :: rest =>
    if isSlash true a && isSlash true b then
      let text := rest.takeWhile fun c => !endsAuthority true c
      let behind := rest.drop text.length
      if isDrive text then some (ofFile none rest)
      else if text.isEmpty then some (ofFile none (dropSlash true behind))
      else do
        let host ← Host.ofText? text
        some (ofFile (if host = localHost then none else some host) (dropSlash true behind))
    else some (ofFile none (dropSlash true cs))
  | _ => some (ofFile none (dropSlash true cs))

def ofOther? (scheme cs : List Char) : Option Url :=
  match cs with
  | '/' :: '/' :: rest => do
    let (authority, cs) ← readAuthority? scheme false rest
    let u : Url := { scheme, authority := some authority, path := [] }
    if (cs.head?.map endsPath).getD true then some (u.withQuery false cs)
    else some (u.withRest false (dropSlash false cs))
  | '/' :: rest => some (({ scheme, path := [] } : Url).withRest false rest)
  | cs =>
    some (({ scheme, path := encode [] (cs.takeWhile fun c => !endsPath c) } : Url).withQuery false
      (cs.dropWhile fun c => !endsPath c))

def ofText? (text : String) : Option Url := do
  let (scheme, cs) ← splitScheme? (cleaned text.toList)
  if scheme = fileScheme then ofFile? cs
  else if (ports.lookup scheme).isSome then ofWeb? scheme cs
  else ofOther? scheme cs

end PolicyLint.Url
