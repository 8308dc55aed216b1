import PolicyLint.Config.Basic
import PolicyLint.Files.Tree

/-!
# Configuration files

A configuration is searched for in a directory and then in the directories above it.
-/

namespace PolicyLint.Config

/-- The names of configuration files, the preferred one first. -/
def fileNames : List String := [".promptlint.jsonc", ".promptlint.json", "promptlint.json"]

def find? (fs : FileSystem) (start : String) : Option String :=
  (Path.ancestors start).findSome? fun dir =>
    (fileNames.map (Path.join dir)).find? fs.isFile

/-- Reads a configuration file. Its directory becomes the base directory. -/
def ofFile (fs : FileSystem) (path : String) : Except SetupFault Config := do
  let text ← (fs.readText path).mapError (.unreadableConfig path)
  let config ← ofText text
  return { config with baseDir := Path.parent? path }

end PolicyLint.Config
