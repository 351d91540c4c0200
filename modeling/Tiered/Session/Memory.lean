import Tiered.Session.Basic

/-!
# Memory — values and tables by number

A value or a table that was made has a number.  Who has the number sees what becomes of it: writing
in place changes what stands under the number, for everybody.  A table holds the numbers of its
values, so that two tables can share a value.  A shallow copy of a table is another table of the
same values; a deep copy is another table of new values (`copyTable`, `deepCopy`).

A resolver is given by the numbers of its two tables.  What it does in memory is step by step what
it does to its entries.
-/

namespace Tiered

/-- Keys with the numbers of their values. -/
abbrev Bindings := List (Value × Nat)

namespace Bindings

/-- The number under a key. -/
def get? (bs : Bindings) (k : Value) : Option Nat :=
  (bs.find? fun b => b.1.equals k).map Prod.snd

/-- The bindings with a number written under the key. -/
def put : Bindings → Value → Nat → Bindings
  | [], k, n => [(k, n)]
  | b :: bs, k, n => if b.1.equals k then (b.1, n) :: bs else b :: put bs k n

/-- The bindings with others written into them, in order. -/
def putAll (bs cs : Bindings) : Bindings := cs.foldl (fun acc b => put acc b.1 b.2) bs

/-- The numbers that are bound. -/
def numbers (bs : Bindings) : List Nat := bs.map Prod.snd

end Bindings

/-- The values and the tables that were made, by number. -/
structure Memory where
  values : List Value
  tables : List Bindings
  deriving Repr

/-- A resolver in memory: the numbers of its overlay and of its environment. -/
structure Handle where
  overlay : Nat
  environment : Nat
  deriving DecidableEq, Repr

namespace Memory

/-- The value with a number. -/
def value (m : Memory) (n : Nat) : Value := m.values.getD n .none

/-- The table with a number. -/
def table (m : Memory) (t : Nat) : Bindings := m.tables.getD t []

/-- The entries that bindings stand for. -/
def entriesOf (m : Memory) (bs : Bindings) : Entries := bs.map fun b => (b.1, m.value b.2)

/-- The entries of the table with a number. -/
def entries (m : Memory) (t : Nat) : Entries := m.entriesOf (m.table t)

/-- The resolver that two tables stand for. -/
def resolver (m : Memory) (x : Handle) : Resolver := ⟨m.entries x.overlay, m.entries x.environment⟩

/-- The number of the value that a resolver finds under a key. -/
def number? (m : Memory) (x : Handle) (key : Value) : Option Nat :=
  match (m.table x.overlay).get? key with
  | some n => some n
  | none => (m.table x.environment).get? key

/-! ### Making and copying -/

/-- The memory with the values of entries behind those that were made. -/
def withValues (m : Memory) (es : Entries) : Memory :=
  { m with values := m.values ++ es.map Prod.snd }

/-- The bindings of the values that are made next. -/
def nextBindings (m : Memory) (es : Entries) : Bindings :=
  es.mapIdx fun i e => (e.1, m.values.length + i)

/-- Makes a value of each entry. -/
def makeValues (es : Entries) : Action Memory Bindings := do
  let m ← Action.read
  Action.modify fun m => m.withValues es
  return m.nextBindings es

/-- Makes a table. -/
def makeTable (bs : Bindings) : Action Memory Nat := do
  let m ← Action.read
  Action.modify fun m => { m with tables := m.tables ++ [bs] }
  return m.tables.length

/-- Makes a table with a value of each entry. -/
def make (es : Entries) : Action Memory Nat := do makeTable (← makeValues es)

/-- Makes another table of the same values. -/
def copyTable (t : Nat) : Action Memory Nat := do makeTable ((← Action.read).table t)

/-- Makes another table of copies of the values, unless they cannot be copied. -/
def deepCopy (copy : Entries → Except Failure Entries) (t : Nat) : Action Memory Nat := do
  make (← Action.lift (copy ((← Action.read).entries t)))

/-- Makes another table of those values that a file can keep. -/
def keepSerializable (t : Nat) : Action Memory Nat := do
  let m ← Action.read
  makeTable ((m.table t).filter fun b => (m.value b.2).serializable)

/-! ### Changing in place -/

/-- The memory with other bindings in a table. -/
def withTable (m : Memory) (t : Nat) (bs : Bindings) : Memory :=
  { m with tables := m.tables.set t bs }

/-- Writes bindings into a table, in place. -/
def update (t : Nat) (bs : Bindings) : Action Memory Unit :=
  Action.modify fun m => m.withTable t ((m.table t).putAll bs)

/-- Changes a value in place. -/
def change (n : Nat) (v : Value) : Action Memory Unit :=
  Action.modify fun m => { m with values := m.values.set n v }

end Memory

/-! ### A resolver in memory -/

namespace Handle

/-- What a resolver does that writes nothing. -/
def reading {α : Type} (x : Handle) (a : Action Resolver α) : Action Memory α :=
  Action.focus (fun m => m.resolver x) (fun _ m => m) a

/-- Writes a new value under a key of the overlay. -/
def set (x : Handle) (key v : Value) : Action Memory Unit := do
  Action.lift (Resolver.checkKey key)
  Memory.update x.overlay (← Memory.makeValues [(key, v)])
  Action.emit (.variableSet key)

/-- Empties the overlay, and then writes into it the values that a table holds by then. -/
def restore (x : Handle) (origin : Nat) : Action Memory Unit := do
  Action.modify fun m => m.withTable x.overlay []
  Memory.update x.overlay ((← Action.read).table origin)

/-- Restores the overlay from a new table of new values. -/
def restoreNew (x : Handle) (es : Entries) : Action Memory Unit := do
  x.restore (← Memory.make es)

/-- Restores the overlay from a value, of which the entries or the items are new. -/
def restoreFrom (x : Handle) (v : Value) : Action Memory Unit := do
  match v with
  | .table es => x.restoreNew es
  | v =>
    x.restoreNew []
    match v.items? with
    | none => Action.fail (.noItems v.fullKind)
    | some items =>
      let (es, fault) := Value.pairs 0 items
      x.restoreNew es
      match fault with
      | none => return ()
      | some fault => Action.fail (.pairs fault)

/-- Adds to a part of the value of a key, in place. -/
def change [Validator] (x : Handle) (key : Value) (path : List Value) (sub v : Value) :
    Action Memory Unit := do
  let found ← x.reading (Resolver.get key .notFound)
  let changed ← match Value.addAt sub v path found with
    | .ok changed => pure changed
    | .error fault => Action.fail (.part fault)
  match (← Action.read).number? x key with
  | some n => Memory.change n changed
  | none => return ()

end Handle

end Tiered
