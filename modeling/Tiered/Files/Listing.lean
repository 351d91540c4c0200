import Tiered.Files.Access

/-!
# Listing — a disk from the outside

A disk begins with the current folder and the folders above it.  It can be furnished with folders
and files, cleared of what is at a path, and listed: everything below the current folder, by its
path from there, in order of the paths, folders with a slash at the end.
-/

namespace Tiered.Files.Disk

/-- The disk with nothing but the current folder and the folders above it. -/
def bare (here : Location) : Disk :=
  ⟨(List.range here.length).map fun i => (here.take (i + 1), .folder), here⟩

/-- The disk with a folder and the folders above it, as far as they can be made. -/
def withFolder (d : Disk) (path : Text) : Disk := (d.makeFolders (.ofText path)).1

/-- The disk with a file and the folders above it, if it can be written. -/
def withFile (d : Disk) (path : Text) (content : Text.Utf8.Octets) : Disk :=
  let p := Path.ofText path
  let above := (d.makeFolders p.parent).1
  (above.writeFile p.text content).toOption.getD above

/-- The disk without what is at a path and everything below it. -/
def without (d : Disk) (path : Text) : Disk :=
  match d.locate (Path.ofText path).codes with
  | .ok loc => { d with nodes := d.nodes.filter fun e => !loc.isPrefixOf e.1 }
  | .error _ => d

/-- The path from the current folder to a location below it. -/
def fromHere? (d : Disk) (loc : Location) : Option Location :=
  if d.here.isPrefixOf loc && loc != d.here then some (loc.drop d.here.length) else none

/-- What is below the current folder: the path, and the content of a file or nothing. -/
def listing (d : Disk) : List (Text × Option Text.Utf8.Octets) :=
  (d.nodes.filterMap fun e => (d.fromHere? e.1).map fun loc => match e.2 with
    | .folder => (⟨Path.slashJoin loc ++ [slash]⟩, none)
    | .file content => (⟨Path.slashJoin loc⟩, some content)).mergeSort
      fun a b => !b.1.before a.1

end Tiered.Files.Disk
