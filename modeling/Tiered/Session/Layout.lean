import Tiered.Session.Memory

/-!
# Layout — a session in memory

A session, the resolvers that were made and the reset point, each given by the numbers of its
tables.  What is loaded is new; the overlay is a deep copy of the reset point, a reset writes a deep
copy of it into the overlay, and saving makes a deep copy of what was saved the reset point, while
what is saved are the very values of the overlay.
-/

namespace Tiered

open Files

/-- A session where it works: on a disk, in a memory, and beside every resolver that was made so
far. -/
structure Layout where
  disk : Disk
  memory : Memory
  resolvers : List Handle
  config : Config
  base : Path
  current : Option Nat
  saved : Nat
  deriving Repr

namespace Layout

/-- A session that was not opened yet; its reset point is an empty table. -/
def new (disk : Disk) (config : Config) (base : Path) : Layout :=
  ⟨disk, ⟨[], [[]]⟩, [], config, base, none, 0⟩

/-- The session as far as it can be seen without numbers. -/
def session (l : Layout) : Session := ⟨l.config, l.base, l.current, l.memory.entries l.saved⟩

/-- The scene that is laid out. -/
def scene (l : Layout) : Scene := ⟨l.disk, l.resolvers.map l.memory.resolver, l.session⟩

/-- An action on the disk. -/
def onDisk {α : Type} (a : Action Disk α) : Action Layout α :=
  Action.focus Layout.disk (fun disk l => { l with disk }) a

/-- An action on the memory. -/
def onMemory {α : Type} (a : Action Memory α) : Action Layout α :=
  Action.focus Layout.memory (fun memory l => { l with memory }) a

/-- The session's resolver; a session that is not open has none. -/
def handle : Action Layout Handle := do
  let l ← Action.read
  match l.current.bind fun id => l.resolvers[id]? with
  | some x => return x
  | none => Action.fail .sessionNotOpen

/-- Makes a resolver and gives it to the session. -/
def install (x : Handle) : Action Layout Unit :=
  Action.modify fun l =>
    { l with resolvers := l.resolvers ++ [x], current := some l.resolvers.length }

/-- Moves the reset point. -/
def setSaved (t : Nat) : Action Layout Unit := Action.modify fun l => { l with saved := t }

section Copying

variable (copy : Entries → Except Failure Entries)

/-- Opens the session, or opens it anew: what was loaded is the reset point, and a deep copy of it
the overlay. -/
def enterWith : Action Layout Unit := do
  let session := (← Action.read).session
  let config := session.config
  let environment ← onDisk
    (Store.loadEnvironment session.envPath.text (.text config.envName) config.createMissing)
  let environmentTable ← onMemory (Memory.make environment)
  let saved ← onDisk (Store.loadSnapshot session.snapshotPath)
  let savedTable ← onMemory (Memory.make saved)
  setSaved savedTable
  let overlay ← onMemory (Memory.deepCopy copy savedTable)
  install ⟨overlay, environmentTable⟩
  Action.emit (.sessionOpened config.envName environment.length saved.length)

/-- Goes back to a deep copy of the reset point. -/
def resetWith : Action Layout Unit := do
  let x ← handle
  let saved ← onMemory (Memory.deepCopy copy (← Action.read).saved)
  onMemory (x.restore saved)

/-- Writes what a file can keep of a table, and gives a table of the values that were written. -/
def saveSnapshot (t : Nat) : Action Layout Nat := do
  let l ← Action.read
  let _ ← onDisk (Store.saveSnapshot l.session.snapshotPath (l.memory.entries t))
  onMemory (Memory.keepSerializable t)

/-- Saves the overlay, and gives a table of the values that were written, of which a deep copy is
the reset point. -/
def saveWith : Action Layout Nat := do
  let x ← handle
  let overlay ← onMemory (Memory.copyTable x.overlay)
  let kept ← saveSnapshot overlay
  let saved ← onMemory (Memory.deepCopy copy kept)
  setSaved saved
  return kept

/-- Saves the overlay. -/
def saveOnlyWith : Action Layout Unit := do
  let _ ← saveWith copy
  return ()

/-- Takes the resolver from the session. -/
def release : Action Layout Unit := Action.modify fun l => { l with current := none }

/-- Closes the session, if it is open. -/
def closeWith : Action Layout Unit := do
  let l ← Action.read
  match l.current.bind fun id => l.resolvers[id]? with
  | none => return ()
  | some x =>
    let persisted := l.config.persistSnapshot
    let entries := (l.memory.table x.overlay).length
    let outcome ← Action.attempt (if persisted then saveOnlyWith copy else pure ())
    release
    Action.emit (.sessionClosed entries persisted)
    Action.lift outcome

/-- Closes the session while another error is on its way: a failure to use the snapshot file is
only reported. -/
def closeOnErrorWith : Action Layout Unit := do
  match ← Action.attempt (closeWith copy) with
  | .ok () => return ()
  | .error (.snapshotFile path reason) =>
    Action.emit (.snapshotSaveFailed path.text (Failure.snapshotFile path reason).message)
  | .error failure => Action.fail failure

/-- Ends the use of the session, with an error on its way or without. -/
def exitWith (failing : Bool) : Action Layout Unit :=
  if failing then closeOnErrorWith copy else closeWith copy

end Copying

/-- Renders a value. -/
def render (v : Value) (strict : Bool) : Action Layout Value := do
  let x ← handle
  onMemory (x.reading (Template.render v strict))

end Layout

end Tiered
