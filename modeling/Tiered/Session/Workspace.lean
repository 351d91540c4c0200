import Tiered.Failure.Make
import Tiered.Session.Basic

/-!
# Workspace — several sessions on one disk

The sessions of a workspace have names and share its disk.  A resolver can be held under the name
of the session that it was taken from, and is then used whatever the session does.  Each session
says whether its events are heard; a held resolver keeps what its session said.
-/

namespace Tiered

open Files

/-- A session with its name, and whether its events are heard. -/
structure Member where
  name : String
  session : Session
  heard : Bool
  deriving Repr

/-- A resolver that is kept, by number, under the name of a session. -/
structure Held where
  name : String
  id : Nat
  heard : Bool
  deriving Repr

/-- Sessions on a disk, every resolver that was made, and the ones that are held. -/
structure Workspace where
  disk : Disk
  resolvers : List Resolver
  members : List Member
  held : List Held
  deriving Repr

namespace Workspace

/-- A workspace without sessions. -/
def ofDisk (d : Disk) : Workspace := ⟨d, [], [], []⟩

/-- The path of the current folder. -/
def here (w : Workspace) : Path := ⟨[slash], w.disk.here⟩

/-- The session with a name. -/
def member? (w : Workspace) (name : String) : Option Member :=
  w.members.find? fun m => m.name == name

/-- The workspace with a session put under its name. -/
def put (w : Workspace) (m : Member) : Workspace :=
  { w with members := m :: w.members.filter fun n => n.name != m.name }

/-- Makes a session with the given fields of its configuration, or the default configuration, in a
base folder, or in the current one. -/
def start (name : String) (fields : Option Entries) (base : Option Value) (heard : Bool) :
    Action Workspace Unit := do
  let config ← match fields with
    | none => pure Config.default
    | some es => Action.lift (Config.ofEntries es)
  let folder ← match base with
    | none => pure (← Action.read).here
    | some v => Action.lift (Failure.pathOf v)
  Action.modify fun w => w.put ⟨name, .new config folder, heard⟩

/-- An action of the session with a name; a name without session behaves like a session that is not
open. -/
def within {α : Type} (name : String) (a : Action Scene α) : Action Workspace α := do
  let w ← Action.read
  match w.member? name with
  | none => Action.fail .sessionNotOpen
  | some m => Action.heardIf m.heard (Action.focus
      (fun w => ⟨w.disk, w.resolvers, m.session⟩)
      (fun s w => { w.put { m with session := s.session } with
        disk := s.disk, resolvers := s.resolvers })
      a)

/-- Holds the resolver of a session. -/
def hold (name : String) : Action Workspace Unit := do
  let id ← within name Scene.current
  Action.modify fun w =>
    let heard := ((w.member? name).map Member.heard).getD true
    { w with held := ⟨name, id, heard⟩ :: w.held.filter fun h => h.name != name }

/-- An action on the resolver that is held under a name. -/
def viaHeld {α : Type} (name : String) (a : Action Resolver α) : Action Workspace α := do
  let w ← Action.read
  match w.held.find? fun h => h.name == name with
  | none => Action.fail .sessionNotOpen
  | some h => Action.heardIf h.heard (Action.focus
      (fun w => w.resolvers.getD h.id ⟨[], []⟩)
      (fun r w => { w with resolvers := w.resolvers.set h.id r })
      a)

/-- An action on the resolver of a session. -/
def via {α : Type} (name : String) (a : Action Resolver α) : Action Workspace α :=
  within name (Scene.resolving a)

end Workspace

end Tiered
