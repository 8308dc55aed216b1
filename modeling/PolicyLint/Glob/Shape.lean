import PolicyLint.Glob.Expression

/-!
# Shapes of globs

Most globs ask for little: a name, an extension, or how a path starts or ends. The shape of a glob says
what a path is asked, and only the last two shapes need the pieces of the glob. A path that ends in two
dots has neither a name nor an extension.
-/

namespace PolicyLint.Glob

inductive Shape where
  /-- Its name is the text. -/
  | name (text : List Char)
  /-- It is the text. -/
  | whole (text : List Char)
  /-- Its extension is the text. -/
  | ending (extension : List Char)
  /-- It starts with the text. -/
  | start (text : List Char)
  /-- It ends with the text, or it is the text without the slash in front. -/
  | finish (text : List Char) (fromSlash : Bool)
  /-- Its extension is the text, and the pieces match. -/
  | guarded (extension : List Char)
  /-- The pieces match. -/
  | general
  deriving DecidableEq, Repr

def literals? : List Piece → Option (List Char)
  | [] => some []
  | .literal c :: rest => (literals? rest).map (c :: ·)
  | _ => none

def dropLeading : List Piece → List Piece
  | .leading :: rest => rest
  | pieces => pieces

def nameOf? : List Piece → Option (List Char)
  | .leading :: rest => (literals? rest).filter fun text => !text.isEmpty && !text.contains '/'
  | _ => none

def wholeOf? (pieces : List Piece) : Option (List Char) :=
  (literals? pieces).filter fun text => !text.isEmpty

/-- The extension that the pieces ask for, and nothing else. -/
def extensionOf? (pieces : List Piece) : Option (List Char) :=
  match dropLeading pieces with
  | .many :: .literal '.' :: rest =>
    (literals? rest).bind fun text =>
      if text.contains '.' || text.contains '/' then none else some ('.' :: text)
  | _ => none

def startOf? (pieces : List Piece) : Option (List Char) :=
  let text? := match pieces.getLast? with
    | some .many => literals? pieces.dropLast
    | some .trailing => (literals? pieces.dropLast).map (· ++ ['/'])
    | _ => none
  text?.filter fun text => !text.isEmpty

/-- The text that the pieces ask for at the end of a path, and whether it starts with a slash that is
not needed at the start of the path. -/
def finishOf? (pieces : List Piece) : Option (List Char × Bool) :=
  let found := match pieces with
    | .leading :: .literal c :: rest => (literals? rest).map fun text => ('/' :: c :: text, true)
    | .leading :: .many :: rest => (literals? rest).map fun text => (text, false)
    | .many :: rest => (literals? rest).map fun text => (text, false)
    | _ => none
  found.filter fun (text, _) => !text.isEmpty && text != ['/']

/-- The literal characters at the end of reversed pieces back to a dot, if no slash is among them. -/
def extensionBack? (behind : List Char) : List Piece → Option (List Char)
  | .literal c :: rest =>
    if c = '/' then none
    else if c = '.' then some (c :: behind)
    else extensionBack? (c :: behind) rest
  | _ => none

def shape (g : Glob) : Shape :=
  match nameOf? g.pieces with
  | some text => .name text
  | none =>
  match wholeOf? g.pieces with
  | some text => .whole text
  | none =>
  match extensionOf? g.pieces with
  | some text => .ending text
  | none =>
  match startOf? g.pieces with
  | some text => .start text
  | none =>
  match finishOf? g.pieces with
  | some (text, fromSlash) => .finish text fromSlash
  | none =>
  match extensionBack? [] g.pieces.reverse with
  | some text => .guarded text
  | none => .general

def afterSlash (path : List Char) : List Char := (path.reverse.takeWhile (· != '/')).reverse

def fileName? (path : List Char) : Option (List Char) :=
  let name := afterSlash path
  if name.isEmpty || name = ['.', '.'] then none else some name

/-- The last dot of the name of a path and what follows it. -/
def fileExtension? (path : List Char) : Option (List Char) := do
  let name ← fileName? path
  if name.contains '.' then
    some ('.' :: (name.reverse.takeWhile (· != '.')).reverse)
  else none

def matchesAs (g : Glob) (path : String) (shape : Shape) : Bool :=
  let text := path.toList
  match shape with
  | .name name => fileName? text = some name
  | .whole whole => text = whole
  | .ending extension => fileExtension? text = some extension
  | .start start => start.isPrefixOf text
  | .finish finish fromSlash => finish.isSuffixOf text || (fromSlash && text = finish.tail)
  | .guarded extension => fileExtension? text = some extension && g.matches path
  | .general => g.matches path

end PolicyLint.Glob
