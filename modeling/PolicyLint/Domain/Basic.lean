import PolicyLint.Domain.Label

/-!
# Names of hosts

`Domain.plain?` brings the name of a host into the plain form in which it is sent. Names that stand for
the same labels have the same plain form.
-/

namespace PolicyLint.Domain

/-- The labels of a part of a name between two dots. Characters of the part can stand for dots. -/
def labelsOf? (part : List Char) : Option (List Label) :=
  if part.all isPlain then (Label.ofLower? (part.map Char.toLower)).map ([·])
  else do
    let text ← mapped? part
    (text.splitOn '.').mapM Label.ofLower?

def labels? (name : List Char) : Option (List Label) :=
  ((name.splitOn '.').mapM labelsOf?).map List.flatten

def plain? (name : List Char) : Option (List Char) := do
  let labels ← labels? name
  if (labels.any fun l => runsBackward l.text) && !labels.all fun l => isOrdered l.text then none
  else some (List.intercalate ['.'] (labels.map Label.plain))

end PolicyLint.Domain
