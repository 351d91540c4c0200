import Tiered.Toml.Malformation
import Tiered.Value.Entries

/-!
# Draft — the tables of a document while it is read

A draft holds the tables so far and remembers which of them are closed.  An inline table or an
array is frozen with everything in it.  A table that was declared by a header cannot be declared
again, and neither can one that a dotted key made, from the next header on.
-/

namespace Tiered.Toml

/-- The tables so far, the keys of frozen values, the keys of declared tables, and the keys that
will count as declared from the next header on. -/
structure Draft where
  root : Entries
  frozen : List Key
  declared : List Key
  pending : List Key

/-- Applies a change to the table that a key leads to, making the tables on the way that are not
there.  With `intoArrays`, a key that leads to an array of tables goes on in its last table. -/
def within {ε : Type} (intoArrays : Bool) (blocked : ε) (change : Entries → Except ε Entries) :
    Entries → Key → Except ε Entries
  | es, [] => change es
  | es, name :: names =>
    match es.get? (.text name) with
    | none => (within intoArrays blocked change [] names).map fun inner =>
        es.put (.text name) (.table inner)
    | some (.table inner) => (within intoArrays blocked change inner names).map fun inner =>
        es.put (.text name) (.table inner)
    | some (.list items) =>
      match intoArrays, items.getLast? with
      | true, some (.table inner) => (within intoArrays blocked change inner names).map fun inner =>
          es.put (.text name) (.list (items.dropLast ++ [.table inner]))
      | _, _ => .error blocked
    | some _ => .error blocked

/-- The entries with one added under a name that is not there. -/
def addEntry {ε : Type} (taken : ε) (name : String) (v : Value) (es : Entries) :
    Except ε Entries :=
  if es.contains (.text name) then .error taken else .ok (es.put (.text name) v)

/-- The entries with an empty table added to the array of tables under a name. -/
def addTable {ε : Type} (blocked : ε) (name : String) (es : Entries) : Except ε Entries :=
  match es.get? (.text name) with
  | none => .ok (es.put (.text name) (.list [.table []]))
  | some (.list items) => .ok (es.put (.text name) (.list (items ++ [.table []])))
  | some _ => .error blocked

/-- Lists and tables, which are frozen where they are written. -/
def isContainer : Value → Bool
  | .list _ => true
  | .table _ => true
  | _ => false

/-- Some key leads to the given one or to a table around it. -/
def covers (keys : List Key) (key : Key) : Bool := keys.any fun k => k.isPrefixOf key

/-- The key without its last name, and that name. -/
def splitLast : Key → Key × String
  | [] => ([], "")
  | [name] => ([], name)
  | name :: names => let (front, last) := splitLast names; (name :: front, last)

namespace Draft

/-- A document without tables. -/
def empty : Draft := ⟨[], [], [], []⟩

/-- The keys of a draft that lie under a key are forgotten. -/
def forget (d : Draft) (key : Key) : Draft :=
  { d with
    frozen := d.frozen.filter fun k => !key.isPrefixOf k
    declared := d.declared.filter fun k => !key.isPrefixOf k }

/-- A header begins: what was pending counts as declared. -/
def beginHeader (d : Draft) : Draft := { d with declared := d.declared ++ d.pending, pending := [] }

/-- A table is declared by its header. -/
def declare (d : Draft) (key : Key) : Except Malformation Draft :=
  if d.declared.contains key || covers d.frozen key then .error (.declaredTwice key)
  else (within true .overwritten .ok d.root key).map fun root =>
    { d with root := root, declared := key :: d.declared }

/-- A table is added to an array of tables by its header. -/
def append (d : Draft) (key : Key) : Except Malformation Draft :=
  if covers d.frozen key then .error (.immutable key)
  else
    let (front, last) := splitLast key
    let d := d.forget key
    (within true .overwritten (addTable .overwritten last) d.root front).map fun root =>
      { d with root := root, declared := key :: d.declared }

/-- The keys of the tables on the way that a dotted key takes from a header. -/
def onTheWay (header key : Key) : List Key :=
  (List.range (key.length - 1)).map fun i => header ++ key.take (i + 1)

/-- A value is written under a key, in the table of a header. -/
def assign (d : Draft) (header key : Key) (v : Value) : Except Malformation Draft :=
  let (front, last) := splitLast key
  let way := onTheWay header key
  match way.find? d.declared.contains with
  | some k => .error (.reopened k)
  | none =>
    if covers d.frozen (header ++ front) then .error (.immutable (header ++ front))
    else (within true .overwritten (addEntry .overwritten last v) d.root (header ++ front)).map
      fun root =>
        { d with
          root := root
          pending := d.pending ++ way
          frozen := if isContainer v then (header ++ key) :: d.frozen else d.frozen }

/-- A value is written under a key of an inline table; `frozen` are the keys of its containers. -/
def assignInline (frozen : List Key) (es : Entries) (key : Key) (v : Value) :
    Except Malformation Entries :=
  let (front, last) := splitLast key
  if covers frozen key then .error (.immutable key)
  else within false .overwritten (addEntry (.duplicate last) last v) es front

end Draft

end Tiered.Toml
