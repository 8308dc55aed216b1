/-!
# What can go wrong with files

Each `FileFault` comes with the message that the operating system has for it.
-/

namespace PolicyLint

inductive FileFault where
  | notFound
  | alreadyExists
  | notDirectory
  | isDirectory
  | tooManyLinks
  /-- The path or one of the names in it. -/
  | nameTooLong
  /-- The path holds a character that no path can hold. -/
  | invalidName
  | invalidText
  | other (message : String)
  deriving DecidableEq, Repr

namespace FileFault

def message : FileFault → String
  | notFound => "No such file or directory (os error 2)"
  | alreadyExists => "File exists (os error 17)"
  | notDirectory => "Not a directory (os error 20)"
  | isDirectory => "Is a directory (os error 21)"
  | tooManyLinks => "Too many levels of symbolic links (os error 40)"
  | nameTooLong => "File name too long (os error 36)"
  | invalidName => "file name contained an unexpected NUL byte"
  | invalidText => "stream did not contain valid UTF-8"
  | other message => message

end FileFault

end PolicyLint
