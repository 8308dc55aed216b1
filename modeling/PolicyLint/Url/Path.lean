import PolicyLint.Url.Percent

/-!
# Paths of addresses

A path is read segment by segment. A segment of one dot is dropped, and one of two dots takes the segment
in front of it away, unless that one looks like the letter of a drive.
-/

namespace PolicyLint.Url

/-- The character ends a segment. Backslashes do so for the schemes of the web and for files. -/
def isSlash (special : Bool) (c : Char) : Bool := c = '/' || (special && c = '\\')

def segmentsOf (special : Bool) : List Char → List (List Char)
  | [] => [[]]
  | c :: rest =>
    if isSlash special c then [] :: segmentsOf special rest
    else
      match segmentsOf special rest with
      | [] => [[c]]
      | s :: ss => (c :: s) :: ss

def plainDots : List Char → List Char
  | '%' :: '2' :: 'e' :: rest => '.' :: plainDots rest
  | '%' :: '2' :: 'E' :: rest => '.' :: plainDots rest
  | c :: rest => c :: plainDots rest
  | [] => []

def startsWithDrive : List Char → Bool
  | letter :: mark :: _ => letter.isAlpha && (mark = ':' || mark = '|')
  | _ => false

def isDrive (cs : List Char) : Bool := startsWithDrive cs && cs.length = 2

/-- The segment stays where two dots follow it. -/
def isKept (segment : List Char) : Bool :=
  startsWithDrive segment && (segment.length = 2 || segment[2]? = some '\\')

structure PathReading where
  /-- The segments so far, reversed. -/
  back : List (List Char) := []
  /-- The path has started with the letter of a drive, so there is no host. -/
  onDrive : Bool := false

namespace PathReading

/-- The path with one more segment. The last one is kept even if it is empty. -/
def add (r : PathReading) (file isLast : Bool) (segment : List Char) : PathReading :=
  let ended (back : List (List Char)) : PathReading :=
    { r with back := if isLast then [] :: back else back }
  if plainDots segment = ['.', '.'] then
    ended (if (r.back.head?.map isKept).getD true then r.back else r.back.tail)
  else if plainDots segment = ['.'] then ended r.back
  else if file && r.back.isEmpty && isDrive segment then
    { back := [segment.take 1 ++ [':']], onDrive := true }
  else { r with back := encode pathMarks segment :: r.back }

def addAll (r : PathReading) (file : Bool) : List (List Char) → PathReading
  | [] => r
  | segment :: rest => (r.add file rest.isEmpty segment).addAll file rest

def text (r : PathReading) : List Char := r.back.reverse.flatMap fun s => '/' :: s

end PathReading

/-- Reads a path behind its first slash. -/
def readPath (special file : Bool) (cs : List Char) : PathReading :=
  ({} : PathReading).addAll file (segmentsOf special cs)

end PolicyLint.Url
