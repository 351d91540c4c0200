import Tiered.Files.Disk

/-!
# Access — asking, reading, writing and making folders

Every operation takes the text of a path.  Asking whether something exists treats a missing or
misplaced name as "no" and passes other refusals on.  Writing replaces the content of a file or adds
one to a folder that is there.  Making a folder makes the folders above it first, and keeps those it
made when it fails further down.
-/

namespace Tiered.Files.Disk

/-- An operation on a path that has octets and must not hold the character U+0000. -/
def guarded {α : Type} (path : Text) (act : List Code → Except Cause α) : Except Fault α :=
  match Text.Utf8.Gap.first? path with
  | some gap => .error (.unencodable gap)
  | none =>
    if path.codes.contains 0 then .error .nullCharacter
    else match act path.codes with
      | .ok a => .ok a
      | .error cause => .error (.refused cause path)

/-- What a path names. -/
def look (d : Disk) (us : List Code) : Except Cause Node :=
  (d.locate us).bind fun loc => match d.node? loc with
    | some node => .ok node
    | none => .error .missing

/-- A node that may not be there: a missing or misplaced name is no fault. -/
def find (d : Disk) (path : Text) : Except Fault (Option Node) :=
  match guarded path d.look with
  | .ok node => .ok (some node)
  | .error .nullCharacter => .ok none
  | .error (.unencodable _) => .ok none
  | .error (.refused .missing _) => .ok none
  | .error (.refused .notFolder _) => .ok none
  | .error fault => .error fault

/-- A path names something. -/
def exists? (d : Disk) (path : Text) : Except Fault Bool := (d.find path).map Option.isSome

/-- A path names a folder. -/
def isFolder? (d : Disk) (path : Text) : Except Fault Bool :=
  (d.find path).map (· == some .folder)

/-- A path names something, whatever the reason if it does not. -/
def holds (d : Disk) (path : Text) : Bool := (d.exists? path).toOption.getD false

/-- The content of a file. -/
def readFile (d : Disk) (path : Text) : Except Fault Text.Utf8.Octets :=
  guarded path fun us => (d.look us).bind fun node => match node with
    | .file content => .ok content
    | .folder => .error .isFolder

/-- Where a file may be written. -/
def writable (d : Disk) (us : List Code) : Except Cause Location :=
  (d.locateNew us).bind fun place => match place with
    | (_, none) => .error .isFolder
    | (folder, some name) =>
      if d.isFolderAt (folder ++ [name]) then .error .isFolder else .ok (folder ++ [name])

/-- The disk with a file's content written. -/
def writeFile (d : Disk) (path : Text) (content : Text.Utf8.Octets) : Except Fault Disk :=
  (guarded path d.writable).map fun loc => d.put loc (.file content)

/-- Where a folder may be made. -/
def free (d : Disk) (us : List Code) : Except Cause Location :=
  (d.locateNew us).bind fun place => match place with
    | (_, none) => .error .exists
    | (folder, some name) =>
      if (d.node? (folder ++ [name])).isSome then .error .exists else .ok (folder ++ [name])

/-- The disk with a new folder in a folder that is there. -/
def makeFolder (d : Disk) (path : Text) : Except Fault Disk :=
  (guarded path d.free).map fun loc => d.put loc .folder

/-- What making a folder comes to after the disk refused: nothing is wrong if the folder is
there. -/
def settled (d : Disk) (path : Text) (fault : Fault) : Option Fault :=
  match fault with
  | .nullCharacter => some .nullCharacter
  | .unencodable gap => some (.unencodable gap)
  | fault => match d.isFolder? path with
    | .ok true => none
    | .ok false => some fault
    | .error fault => some fault

/-- The disk with a folder and the folders above it, and why they are not all there. -/
def makeFolders (d : Disk) (p : Path) : Disk × Option Fault :=
  match d.makeFolder p.text with
  | .ok made => (made, none)
  | .error (.refused .missing path) =>
    if _h : p.names = [] then (d, some (.refused .missing path))
    else match makeFolders d p.parent with
      | (above, some fault) => (above, some fault)
      | (above, none) => match above.makeFolder p.text with
        | .ok made => (made, none)
        | .error (.refused .missing path) => (above, some (.refused .missing path))
        | .error fault => (above, above.settled p.text fault)
  | .error fault => (d, d.settled p.text fault)
termination_by p.names.length
decreasing_by
  simp only [Path.parent, List.length_dropLast]
  have := List.length_pos_iff.2 ‹¬p.names = []›
  omega

end Tiered.Files.Disk
