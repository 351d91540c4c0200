import Tiered.Resolver.Basic
import Tiered.Store.Access

/-!
# Environment — the file of named environments

The file holds one object with an entry for each environment, which is itself an object.  A file
that is not there counts as one without environments, and may be made.
-/

namespace Tiered.Store

open Files

/-- The path of the environment file where none is given. -/
def defaultEnvironmentPath : Text := "http-client.env.json"

/-- The content of a new environment file. -/
def emptyObject : List Char := ['\x7b', '\x7d']

/-- Makes an environment file without environments, and the folders above it. -/
def createEnvironments (path : Path) : Action Disk Unit := do
  environmentFile.access path do
    makeFolders path.parent
    writeFile path emptyObject
  Action.emit (.environmentCreated path.text)

/-- The named environments of a file. -/
def readEnvironments (path : Path) (createMissing : Bool) : Action Disk Entries := do
  if ← exists? path then
    let cs ← environmentFile.access path (readText path)
    Action.lift (environmentFile.parse path cs)
  else
    if createMissing then createEnvironments path
    return []

/-- The variables of one environment; an environment that the file does not name has none.
`shownAs` is the path in the words of the caller. -/
def loadEnvironment (shownAs : Text) (name : Value) (createMissing : Bool) :
    Action Disk Entries := do
  let path := Path.ofText shownAs
  let environments ← readEnvironments path createMissing
  Action.lift (Resolver.checkKey name)
  match environments.get? name with
  | none =>
    Action.emit (.environmentLoaded shownAs name 0)
    return []
  | some (.table entries) =>
    Action.emit (.environmentLoaded shownAs name entries.length)
    return entries
  | some _ =>
    Action.fail (environmentFile.refuse path
      ("environment '" ++ Failure.plain name ++ "' must be a JSON object"))

end Tiered.Store
