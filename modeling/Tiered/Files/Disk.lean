import Tiered.Files.Path
import Tiered.Text.Quoted
import Tiered.Text.Utf8

/-!
# Disk — folders and files by their location

A disk holds folders and files, each at its location, which is the row of names from the root.
One location is the current folder, where relative paths begin.  A walk follows a path name by
name: every name but the last must stand for a folder, and double points lead back up.
-/

namespace Tiered.Files

/-- The names on the way from the root. -/
abbrev Location := List Name

/-- What is at a location. -/
inductive Node where
  | folder
  | file (content : Text.Utf8.Octets)
  deriving DecidableEq, Repr

/-- Folders and files, and the location of the current folder. -/
structure Disk where
  nodes : List (Location × Node)
  here : Location
  deriving DecidableEq, Repr

/-- Why the disk refuses an operation. -/
inductive Cause where
  | missing
  | exists
  | notFolder
  | isFolder
  | nameTooLong
  deriving DecidableEq, Repr

namespace Cause

/-- The number of a cause. -/
def number : Cause → Nat
  | missing => 2
  | «exists» => 17
  | notFolder => 20
  | isFolder => 21
  | nameTooLong => 36

/-- The words for a cause. -/
def text : Cause → String
  | missing => "No such file or directory"
  | «exists» => "File exists"
  | notFolder => "Not a directory"
  | isFolder => "Is a directory"
  | nameTooLong => "File name too long"

end Cause

/-- Why an operation on a path failed: the disk refused it, the path holds the character U+0000,
which no path may hold, or no octets stand for it. -/
inductive Fault where
  | refused (cause : Cause) (path : Text)
  | nullCharacter
  | unencodable (gap : Text.Utf8.Gap)
  deriving DecidableEq, Repr

/-- The message of a fault. -/
def Fault.message : Fault → String
  | refused cause path => "[Errno " ++ toString cause.number ++ "] " ++ cause.text ++ ": " ++
      String.ofList (Text.Quoted.literal path)
  | nullCharacter => "embedded null byte"
  | unencodable gap => gap.message

/-- The most octets that a name may have. -/
def maxNameSize : Nat := 255

/-- The number of octets from which on a path is too long. -/
def pathSizeLimit : Nat := 4096

/-- How many octets the code points of a name or a path take. -/
def sizeOf (us : List Code) : Nat := Text.Utf8.size (Text.mk us).chars

namespace Disk

/-- What is at a location; the root is always a folder. -/
def node? (d : Disk) (loc : Location) : Option Node :=
  if loc = [] then some .folder else d.nodes.lookup loc

/-- There is a folder at the location. -/
def isFolderAt (d : Disk) (loc : Location) : Bool := d.node? loc == some .folder

/-- The nodes with one put at a location. -/
def putNode : List (Location × Node) → Location → Node → List (Location × Node)
  | [], loc, node => [(loc, node)]
  | e :: es, loc, node => if e.1 = loc then (loc, node) :: es else e :: putNode es loc node

/-- The disk with a node put at a location. -/
def put (d : Disk) (loc : Location) (node : Node) : Disk := ⟨putNode d.nodes loc node, d.here⟩

/-- The location one name further on from a folder. -/
def step (d : Disk) (loc : Location) (name : Name) : Except Cause Location :=
  if !d.isFolderAt loc then .error .notFolder
  else if name = [point] then .ok loc
  else if name = [point, point] then .ok loc.dropLast
  else if maxNameSize < sizeOf name then .error .nameTooLong
  else if (d.node? (loc ++ [name])).isNone then .error .missing
  else .ok (loc ++ [name])

/-- The location that a row of names leads to. -/
def walk (d : Disk) (loc : Location) : List Name → Except Cause Location
  | [] => .ok loc
  | name :: names => (d.step loc name).bind fun next => d.walk next names

/-- Where a path text begins. -/
def start (d : Disk) (us : List Code) : Location := if us.head? = some slash then [] else d.here

/-- The names of a path text; a slash at the end asks for a folder, like a single point would. -/
def stepsOf (us : List Code) : List Name :=
  let names := (splitSlash us).filter (!·.isEmpty)
  if us.getLast? = some slash then names ++ [[point]] else names

/-- The location of what a path text names. -/
def locate (d : Disk) (us : List Code) : Except Cause Location :=
  if us.isEmpty then .error .missing
  else if pathSizeLimit ≤ sizeOf us then .error .nameTooLong
  else d.walk (d.start us) (stepsOf us)

/-- Where a new node would be: the folder that holds it, and its name if it is one. -/
def locateNew (d : Disk) (us : List Code) : Except Cause (Location × Option Name) :=
  if us.isEmpty then .error .missing
  else if pathSizeLimit ≤ sizeOf us then .error .nameTooLong
  else match (stepsOf us).reverse with
    | [] => .ok (d.start us, none)
    | name :: before =>
      (d.walk (d.start us) before.reverse).bind fun folder =>
        if !d.isFolderAt folder then .error .notFolder
        else if name = [point] ∨ name = [point, point] then .ok (folder, none)
        else if maxNameSize < sizeOf name then .error .nameTooLong
        else .ok (folder, some name)

theorem node?_root (d : Disk) : d.node? [] = some .folder := rfl

theorem lookup_putNode (es : List (Location × Node)) (loc : Location) (node : Node)
    (other : Location) :
    (putNode es loc node).lookup other = if other = loc then some node else es.lookup other := by
  induction es with
  | nil => by_cases h : other = loc <;> simp [putNode, List.lookup_cons, h, beq_eq_false_iff_ne.2]
  | cons e es ih =>
    obtain ⟨l, n⟩ := e
    rw [putNode]
    by_cases h : l = loc
    · subst h
      by_cases ho : other = l
      · simp [ho]
      · simp [List.lookup_cons, ho, beq_eq_false_iff_ne.2 ho]
    · rw [if_neg h]
      by_cases ho : other = l
      · subst ho
        simp [h]
      · simp [List.lookup_cons, beq_eq_false_iff_ne.2 ho, ih]

/-- What was put at a location is there, and every other location is as before. -/
theorem node?_put (d : Disk) {loc : Location} (h : loc ≠ []) (node : Node) (other : Location) :
    (d.put loc node).node? other = if other = loc then some node else d.node? other := by
  by_cases ho : other = []
  · subst ho
    simp [node?, Ne.symm h]
  · simp [node?, ho, put, lookup_putNode]

theorem step_eq_ok {d : Disk} {loc next : Location} {name : Name} (h : d.step loc name = .ok next) :
    d.isFolderAt loc = true := by
  cases hf : d.isFolderAt loc with
  | true => rfl
  | false => simp [step, hf] at h

end Disk

end Tiered.Files
