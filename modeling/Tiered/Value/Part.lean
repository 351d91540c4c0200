import Tiered.Value.Display
import Tiered.Value.Entries

/-!
# Part — changing a part of a value in place

A path leads into lists, tuples, texts and octets by position, where negative positions count from
the end, and into tables by key.  A part of a text is a text of one character and a part of octets a
whole number.  Where the path ends, a list takes one more item and a table takes an entry; nothing
else can be added to.
-/

namespace Tiered

/-- The kinds of values that have parts by position. -/
inductive Sequence where
  | list
  | tuple
  | text
  | octets
  deriving DecidableEq, Repr

/-- Why a part cannot be reached or changed. -/
inductive PartFault where
  /-- No entry under the key. -/
  | noEntry (key : Value)
  /-- No item at the position. -/
  | noItem (sequence : Sequence)
  /-- A whole number that no position can be. -/
  | hugePosition
  /-- Not a position, of the given kind. -/
  | noPosition (sequence : Sequence) (kind : String)
  /-- A value of a kind that has no parts. -/
  | noParts (kind : String)
  /-- A kind, which has no parts. -/
  | noPartsOfKind (kind : String)
  /-- A value of a kind whose parts cannot be changed. -/
  | fixed (kind : String)
  /-- A key of a kind that can change in place. -/
  | unhashable (kind : String)
  deriving Repr

namespace PartFault

/-- The words about a position that has no item. -/
def noItemText : Sequence → String
  | .list => "list index out of range"
  | .tuple => "tuple index out of range"
  | .text => "string index out of range"
  | .octets => "index out of range"

/-- The words about something of a kind that is no position. -/
def noPositionText (kind : String) : Sequence → String
  | .list => "list indices must be integers or slices, not " ++ kind
  | .tuple => "tuple indices must be integers or slices, not " ++ kind
  | .text => "string indices must be integers, not '" ++ kind ++ "'"
  | .octets => "byte indices must be integers or slices, not " ++ kind

/-- The words for a fault. -/
def message : PartFault → String
  | noEntry key => key.shown
  | noItem sequence => noItemText sequence
  | hugePosition => "cannot fit 'int' into an index-sized integer"
  | noPosition sequence kind => noPositionText kind sequence
  | noParts kind => "'" ++ kind ++ "' object is not subscriptable"
  | noPartsOfKind kind => "type '" ++ kind ++ "' is not subscriptable"
  | fixed kind => "'" ++ kind ++ "' object does not support item assignment"
  | unhashable kind => "unhashable type: '" ++ kind ++ "'"

end PartFault

namespace Value

/-- The position that a value stands for in a sequence of the given length. -/
def position (sequence : Sequence) (length : Nat) (v : Value) : Except PartFault Nat :=
  let place (i : Int) : Except PartFault Nat :=
    let j := if i < 0 then i + length else i
    if !fitsWord i then .error .hugePosition
    else if 0 ≤ j ∧ j < length then .ok j.toNat
    else .error (.noItem sequence)
  match v with
  | int i => place i
  | bool b => place (ofBool b)
  | v => .error (.noPosition sequence v.fullKind)

/-- The value is of a kind that looks at a position before it refuses to store anything there. -/
def looksAtPositions : Value → Bool
  | text _ => true
  | octets _ => true
  | tuple _ => true
  | set _ => true
  | notFound => true
  | _ => false

/-- A whole number that no position can be. -/
def isHugePosition : Value → Bool
  | int i => !fitsWord i
  | _ => false

/-- The value with something added to it: an item of a list or an entry of a table. -/
def add (sub v : Value) : Value → Except PartFault Value
  | list items => .ok (list (items ++ [v]))
  | table entries => match sub.unhashable? with
    | some kind => .error (.unhashable kind)
    | Option.none => .ok (table (Entries.put entries sub v))
  | w =>
    if w.looksAtPositions && sub.isHugePosition then .error .hugePosition
    else .error (.fixed w.fullKind)

/-- Why a value that is no sequence and no table has no parts. -/
def noParts : Value → PartFault
  | foreign thing => match thing.names? with
    | some kind => .noPartsOfKind kind
    | Option.none => .noParts thing.fullKind
  | v => .noParts v.fullKind

/-- The value with something added to the part that a path leads to. -/
def addAt (sub v : Value) : List Value → Value → Except PartFault Value
  | [], w => add sub v w
  | p :: path, w =>
    match w with
    | list items => do
      let i ← position .list items.length p
      let inner ← addAt sub v path (items.getD i Value.none)
      return list (items.set i inner)
    | tuple items => do
      let i ← position .tuple items.length p
      let inner ← addAt sub v path (items.getD i Value.none)
      return tuple (items.set i inner)
    | table entries => match p.unhashable? with
      | some kind => .error (.unhashable kind)
      | Option.none => match Entries.get? entries p with
        | Option.none => .error (.noEntry p)
        | some inner =>
          (addAt sub v path inner).map fun inner => table (Entries.put entries p inner)
    | text t => do
      let i ← position .text t.numbers.length p
      (addAt sub v path (text (.ofNumbers [t.numbers.getD i 0]))).map fun _ => text t
    | octets bytes => do
      let i ← position .octets bytes.length p
      (addAt sub v path (int (bytes.getD i 0).toNat)).map fun _ => octets bytes
    | w => .error (noParts w)

end Value

end Tiered
