import Tiered.Action
import Tiered.Files.Access

/-!
# Access — actions on a disk

The accesses to a disk as actions: what fails leaves the disk as far as it came.  A file of text is
read with every line end as a line feed.
-/

namespace Tiered.Store

open Files

/-- What asking the disk says. -/
def ask {α : Type} (question : Disk → Except Fault α) : Action Disk α := fun d =>
  match question d with
  | .ok a => ⟨.ok a, d, []⟩
  | .error fault => ⟨.error (.files fault), d, []⟩

/-- Something at a path is there. -/
def exists? (path : Path) : Action Disk Bool := ask fun d => d.exists? path.text

/-- Makes a folder and the folders above it. -/
def makeFolders (path : Path) : Action Disk Unit := fun d =>
  match d.makeFolders path with
  | (made, none) => ⟨.ok (), made, []⟩
  | (made, some fault) => ⟨.error (.files fault), made, []⟩

/-- Writes the content of a file. -/
def writeFile (path : Path) (content : List Char) : Action Disk Unit := fun d =>
  match d.writeFile path.text (Text.Utf8.encode content) with
  | .ok written => ⟨.ok (), written, []⟩
  | .error fault => ⟨.error (.files fault), d, []⟩

/-- The octets of a file as text, as they are. -/
def decode (octets : Text.Utf8.Octets) : Except Failure (List Char) :=
  match Text.Utf8.decode octets with
  | .ok cs => .ok cs
  | .error fault => .error (.encoding fault)

/-- Reads a file of text. -/
def readText (path : Path) : Action Disk (List Char) := do
  let octets ← ask fun d => d.readFile path.text
  let cs ← Action.lift (decode octets)
  return Text.Lines.unify cs

/-- Files that hold one JSON object. -/
structure ObjectFile where
  /-- The failure to use the file at a path, for a reason. -/
  failure : Path → Value → Failure

/-- The environment file. -/
def environmentFile : ObjectFile := ⟨.environmentFile⟩

/-- The snapshot file. -/
def snapshotFile : ObjectFile := ⟨.snapshotFile⟩

namespace ObjectFile

/-- The failure to use a file, for a reason in words. -/
def refuse (f : ObjectFile) (path : Path) (reason : String) : Failure :=
  f.failure path (.text reason)

/-- An action on the file, where a refusal of the disk becomes a failure to use the file.  Other
failures stay what they are, and so does a path that no file can have. -/
def access {α : Type} (f : ObjectFile) (path : Path) (a : Action Disk α) : Action Disk α := fun d =>
  let o := a d
  match o.result with
  | .error (.files (.refused cause place)) =>
    ⟨.error (f.refuse path (Fault.refused cause place).message), o.state, o.events⟩
  | _ => o

/-- The object in a text. -/
def parse (f : ObjectFile) (path : Path) (cs : List Char) : Except Failure Entries :=
  match Json.read cs with
  | .ok (.table es) => .ok es
  | .ok _ => .error (f.refuse path "top level must be a JSON object")
  | .error (.malformed what place) =>
    .error (f.refuse path ("invalid JSON: " ++ what.message place))
  | .error (.overlong digits) => .error (.overlong (some digits))

end ObjectFile

end Tiered.Store
