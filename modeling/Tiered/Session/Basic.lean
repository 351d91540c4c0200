import Tiered.Config.Basic
import Tiered.Store.Environment
import Tiered.Store.Snapshot
import Tiered.Template.Render
import Tiered.Value.Depth

/-!
# Session — one run over an environment and a snapshot

A session is opened, used through its resolver, and closed.  Opening reads the chosen environment
and the snapshot, which becomes the overlay and the reset point.  Saving writes the overlay's
serializable entries and makes them the reset point; resetting goes back to the reset point.
Closing saves if the configuration says so, and releases the resolver even if saving fails.  The
overlay and the reset point are copies of each other, and a copy that cannot be made, because values
are nested too deep, is a failure in the middle of an operation (`enterWith`, `saveWith`).

Every opening makes a new resolver.  Resolvers stay where they are once they were made, so that one
that somebody keeps can be used after its session went on without it.
-/

namespace Tiered

open Files

/-- A copy of entries, if their values are not nested deeper than there is room for. -/
def Entries.copyWithin (room : Nat) (es : Entries) : Except Failure Entries :=
  if (Value.table es).depth ≤ room then .ok es else .error .tooDeep

/-- A session: its settings, the folder that its paths start from, its resolver while it is open,
given by number, and the reset point. -/
structure Session where
  config : Config
  base : Path
  current : Option Nat
  saved : Entries
  deriving Repr

namespace Session

/-- A session that was not opened yet. -/
def new (config : Config) (base : Path) : Session := ⟨config, base, none, []⟩

/-- The path of the environment file. -/
def envPath (s : Session) : Path := s.base.join (.ofText s.config.envFile)

/-- The path of the snapshot file. -/
def snapshotPath (s : Session) : Path := s.base.join (.ofText s.config.snapshotFile)

/-- The session is open. -/
def isOpen (s : Session) : Bool := s.current.isSome

end Session

/-- A session where it works: on a disk, and beside every resolver that was made so far. -/
structure Scene where
  disk : Disk
  resolvers : List Resolver
  session : Session
  deriving Repr

namespace Scene

/-- The resolver with a number; one that was never made is empty. -/
def resolver (s : Scene) (id : Nat) : Resolver := s.resolvers.getD id ⟨[], []⟩

/-- An action on the disk. -/
def onDisk {α : Type} (a : Action Disk α) : Action Scene α :=
  Action.focus Scene.disk (fun disk s => { s with disk := disk }) a

/-- An action on the resolver with a number. -/
def onResolver {α : Type} (id : Nat) (a : Action Resolver α) : Action Scene α :=
  Action.focus (fun s => s.resolver id)
    (fun r s => { s with resolvers := s.resolvers.set id r }) a

/-- The number of the session's resolver; a session that is not open has none. -/
def current : Action Scene Nat := do
  let s ← Action.read
  match s.session.current with
  | some id => return id
  | none => Action.fail .sessionNotOpen

/-- An action on the session's resolver. -/
def resolving {α : Type} (a : Action Resolver α) : Action Scene α := do
  let id ← current
  onResolver id a

/-- Makes a resolver and gives it to the session. -/
def install (r : Resolver) : Action Scene Unit :=
  Action.modify fun s =>
    { s with
      resolvers := s.resolvers ++ [r]
      session := { s.session with current := some s.resolvers.length } }

/-- Moves the reset point. -/
def setSaved (es : Entries) : Action Scene Unit :=
  Action.modify fun s => { s with session := { s.session with saved := es } }

section Copying

/- What a session keeps is copied, so that what becomes of one copy leaves the other alone.  Copying
can fail. -/
variable (copy : Entries → Except Failure Entries)

/-- Opens the session, or opens it anew: what was loaded is the reset point, and a copy of it the
overlay. -/
def enterWith : Action Scene Unit := do
  let session := (← Action.read).session
  let config := session.config
  let environment ← onDisk
    (Store.loadEnvironment session.envPath.text (.text config.envName) config.createMissing)
  let saved ← onDisk (Store.loadSnapshot session.snapshotPath)
  setSaved saved
  let overlay ← Action.lift (copy saved)
  install ⟨overlay, environment⟩
  Action.emit (.sessionOpened config.envName environment.length saved.length)

/-- Goes back to a copy of the reset point. -/
def resetWith : Action Scene Unit := do
  let id ← current
  let s ← Action.read
  let saved ← Action.lift (copy s.session.saved)
  onResolver id (Resolver.restore (.entries saved))

/-- Saves the overlay, and gives the entries that were written, of which a copy is the reset
point. -/
def saveWith : Action Scene Entries := do
  let id ← current
  let s ← Action.read
  let kept ← onDisk (Store.saveSnapshot s.session.snapshotPath (s.resolver id).overlay)
  let saved ← Action.lift (copy kept)
  setSaved saved
  return kept

/-- Saves the overlay. -/
def saveOnlyWith : Action Scene Unit := do
  let _ ← saveWith copy
  return ()

/-- Takes the resolver from the session. -/
def release : Action Scene Unit :=
  Action.modify fun s => { s with session := { s.session with current := none } }

/-- Closes the session, if it is open. -/
def closeWith : Action Scene Unit := do
  let s ← Action.read
  match s.session.current with
  | none => return ()
  | some id =>
    let persisted := s.session.config.persistSnapshot
    let entries := (s.resolver id).overlay.length
    let outcome ← Action.attempt (if persisted then saveOnlyWith copy else pure ())
    release
    Action.emit (.sessionClosed entries persisted)
    Action.lift outcome

/-- Closes the session while another error is on its way: a failure to use the snapshot file is
only reported. -/
def closeOnErrorWith : Action Scene Unit := do
  match ← Action.attempt (closeWith copy) with
  | .ok () => return ()
  | .error (.snapshotFile path reason) =>
    Action.emit (.snapshotSaveFailed path.text (Failure.snapshotFile path reason).message)
  | .error failure => Action.fail failure

/-- Ends the use of the session, with an error on its way or without. -/
def exitWith (failing : Bool) : Action Scene Unit :=
  if failing then closeOnErrorWith copy else closeWith copy

end Copying

/-! The operations where every copy can be made. -/

/-- Opens the session, or opens it anew. -/
def enter : Action Scene Unit := enterWith .ok

/-- Goes back to the reset point. -/
def reset : Action Scene Unit := resetWith .ok

/-- Saves the overlay, and gives the entries that were written. -/
def save : Action Scene Entries := saveWith .ok

/-- Saves the overlay. -/
def saveOnly : Action Scene Unit := saveOnlyWith .ok

/-- Closes the session, if it is open. -/
def close : Action Scene Unit := closeWith .ok

/-- Closes the session while another error is on its way: a failure to use the snapshot file is
only reported. -/
def closeOnError : Action Scene Unit := closeOnErrorWith .ok

/-- Ends the use of the session, with an error on its way or without. -/
def exit (failing : Bool) : Action Scene Unit := exitWith .ok failing

/-- Renders a value. -/
def render (v : Value) (strict : Bool) : Action Scene Value := resolving (Template.render v strict)

end Scene

end Tiered
