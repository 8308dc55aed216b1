import PolicyLint.Cache.Place
import PolicyLint.CommandLine.Basic

/-!
# The program

Reads what a command can see of the disk and of the environment, and prints what the command leads to.
There is no way to the network from here: a request reaches nothing, as if the service were down.
-/

namespace PolicyLint.Program

/-- Reads what stands at a place. Hidden entries are left out, links are kept as links. -/
partial def readTree (path : String) : IO (Option FileTree) := do
  let place ← IO.FS.realPath path
  if place.toString ≠ path then return some (.link place.toString)
  match (← place.metadata).type with
  | .dir =>
    let mut entries := []
    for entry in ← place.readDir do
      unless Path.isHiddenName entry.fileName do
        if let some tree ← readTree entry.path.toString then
          entries := (entry.fileName, tree) :: entries
    return some (.directory entries)
  | .file => return some (.file (← IO.FS.readBinFile place))
  | _ => return none

def look (tree : FileTree) (path : String) : IO FileTree := do
  try
    let place ← IO.FS.realPath path
    match ← readTree place.toString with
    | some found => return tree.put (Path.names place.toString) found
    | none => return tree
  catch _ => return tree

/-- The files that words on the command line are about, those of the working directory among them. -/
def readFiles (words : List String) : IO FileSystem := do
  let cwd := (← IO.FS.realPath ".").toString
  let named := match CommandLine.read words with
    | .ok command => command.paths.map (Path.join cwd)
    | .error _ => []
  let configs := (Path.ancestors cwd).flatMap fun dir => Config.fileNames.map (Path.join dir)
  let root ← (cwd :: named ++ configs).foldlM look (.directory [])
  return { root, cwd := Path.names cwd }

end PolicyLint.Program

open PolicyLint in
def main (words : List String) : IO UInt32 := do
  let files ← Program.readFiles words
  let host : CommandLine.Host Unit :=
    { files, environment := fun _ => none, stored := CacheDir.ofFiles files, now := 0
      transport := .offline }
  let name? := match CommandLine.read words with
    | .ok command => ((host.config command.switches).toOption).map (·.api.keyVariable)
    | .error _ => none
  let key? ← match name? with
    | some name => IO.getEnv name
    | none => pure none
  let host := { host with environment := fun name => if name? = some name then key? else none }
  let (printed, _) := CommandLine.answer host words ()
  for message in printed.log do
    IO.eprintln message
  if let some costs := printed.costs then
    IO.eprint costs
  IO.print printed.output
  return printed.exit.toUInt32
