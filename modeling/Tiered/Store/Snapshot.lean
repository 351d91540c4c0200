import Tiered.Store.Access
import Tiered.Text.Blank
import Tiered.Value.Serializable

/-!
# Snapshot — the file that keeps an overlay

Saving writes the serializable entries and reports each entry that it leaves out.  Loading gives the
entries back; a file that is not there, or is blank, has none.
-/

namespace Tiered.Store

open Files

/-- The path of the snapshot file where none is given. -/
def defaultSnapshotPath : Text := ".snapshot.json"

/-- The entries of a value, which must be a table. -/
def entriesOf (v : Value) : Except Failure Entries :=
  match v with
  | .table es => .ok es
  | v => .error (.noAttribute v "items")

/-- The entries that a file can keep; every other entry is reported. -/
def keepSerializable {σ : Type} (es : Entries) : Action σ Entries := do
  Action.emitAll (es.skipped.map fun e => .valueSkipped e.1 e.2.kind)
  return es.keep

/-- The entries of a snapshot file. -/
def loadSnapshot (path : Path) : Action Disk Entries := do
  if ← exists? path then
    let cs ← snapshotFile.access path (readText path)
    if Text.allBlank cs then return []
    else
      let es ← Action.lift (snapshotFile.parse path cs)
      Action.emit (.snapshotLoaded path.text es.length)
      return es
  else return []

/-- The text of a snapshot file. -/
def snapshotText (es : Entries) : Except Failure (List Char) :=
  match Json.write Json.Style.indented (.table es) with
  | .ok cs => .ok cs
  | .error refusal => .error (.ofRefusal refusal)

/-- Writes a snapshot file, making the folders above it first, and gives the entries written. -/
def saveSnapshot (path : Path) (es : Entries) : Action Disk Entries := do
  let kept ← keepSerializable es
  snapshotFile.access path do
    makeFolders path.parent
    let cs ← Action.lift (snapshotText kept)
    writeFile path cs
  Action.emit (.snapshotSaved path.text kept.length)
  return kept

end Tiered.Store
