import Mathlib
import Tiered.Session.Basic
import Tiered.Proofs.Resolver.Outcome
import Tiered.Proofs.Store.Outcome

/-!
# Outcome — what the operations on a session come to

Each operation on a session as one case distinction on what the operation below it comes to: first
with whatever copies the entries that the session keeps (`enterWith_eq`, `saveWith_of_open`), and
then where every copy can be made.  A session that is not open refuses resetting and saving
(`reset_of_closed`, `save_of_closed`) and is closed as it is (`close_of_closed`).
-/

namespace Tiered.Scene

variable (copy : Entries → Except Failure Entries) (s : Scene) {id : Nat}

theorem current_of_open (h : s.session.current = some id) : current s = ⟨.ok id, s, []⟩ := by
  simp only [current, Action.bind_apply, Action.read_apply, h]
  rfl

theorem current_of_closed (h : s.session.current = none) :
    current s = ⟨.error .sessionNotOpen, s, []⟩ := by
  simp only [current, Action.bind_apply, Action.read_apply, h]
  rfl

/-- What an action on the resolver of an open session comes to. -/
theorem resolving_of_open {α : Type} (a : Action Resolver α) (h : s.session.current = some id) :
    resolving a s = ⟨(a (s.resolver id)).result,
      { s with resolvers := s.resolvers.set id (a (s.resolver id)).state },
      (a (s.resolver id)).events⟩ := by
  simp only [resolving, Action.bind_apply, current_of_open s h, onResolver, Action.focus,
    List.nil_append]

theorem resolving_of_closed {α : Type} (a : Action Resolver α) (h : s.session.current = none) :
    resolving a s = ⟨.error .sessionNotOpen, s, []⟩ := by
  simp only [resolving, Action.bind_apply, current_of_closed s h]

/-! ### Another overlay -/

/-- The scene with another overlay in the resolver with a number. -/
def overlaid (s : Scene) (id : Nat) (overlay : Entries) : Scene :=
  { s with resolvers := s.resolvers.set id ⟨overlay, (s.resolver id).environment⟩ }

theorem resolver_overlaid {s : Scene} {id : Nat} (h : id < s.resolvers.length)
    (overlay : Entries) :
    (s.overlaid id overlay).resolver id = ⟨overlay, (s.resolver id).environment⟩ := by
  simp [overlaid, resolver, h]

theorem resolver_overlaid_of_ne {s : Scene} {id other : Nat} (h : other ≠ id)
    (overlay : Entries) : (s.overlaid id overlay).resolver other = s.resolver other := by
  simp [overlaid, resolver, List.getElem?_set_ne h.symm]

/-- What setting under a text comes to, in an open session. -/
theorem set_of_open (h : s.session.current = some id) (key : Text) (v : Value) :
    resolving (Resolver.set (.text key) v) s =
      ⟨.ok (), s.overlaid id ((s.resolver id).overlay.put (.text key) v),
        [.variableSet (.text key)]⟩ := by
  rw [resolving_of_open s _ h, Resolver.set_text]
  rfl

/-! ### Opening, resetting, saving and closing -/

/-- What loading the environment of the session comes to. -/
def environmentOutcome : Outcome Files.Disk Entries :=
  Store.loadEnvironment s.session.envPath.text (.text s.session.config.envName)
    s.session.config.createMissing s.disk

/-- What loading the snapshot of the session, behind its environment, comes to. -/
def snapshotOutcome : Outcome Files.Disk Entries :=
  Store.loadSnapshot s.session.snapshotPath (environmentOutcome s).state

/-- What opening comes to. -/
theorem enterWith_eq :
    enterWith copy s = match (environmentOutcome s).result with
      | .error failure => ⟨.error failure, { s with disk := (environmentOutcome s).state },
          (environmentOutcome s).events⟩
      | .ok environment => match (snapshotOutcome s).result with
        | .error failure => ⟨.error failure, { s with disk := (snapshotOutcome s).state },
            (environmentOutcome s).events ++ (snapshotOutcome s).events⟩
        | .ok saved => match copy saved with
          | .error failure =>
            ⟨.error failure, { s with
                disk := (snapshotOutcome s).state, session := { s.session with saved := saved } },
              (environmentOutcome s).events ++ (snapshotOutcome s).events⟩
          | .ok overlay =>
            ⟨.ok (), ⟨(snapshotOutcome s).state, s.resolvers ++ [⟨overlay, environment⟩],
                { s.session with saved := saved, current := some s.resolvers.length }⟩,
              (environmentOutcome s).events ++ ((snapshotOutcome s).events ++
                [.sessionOpened s.session.config.envName environment.length saved.length])⟩ := by
  simp only [enterWith, Action.bind_apply, Action.read_apply, onDisk, Action.focus, setSaved,
    Action.lift_apply, Action.modify_apply, install, Action.emit_apply, List.nil_append,
    environmentOutcome, snapshotOutcome]
  rcases Store.loadEnvironment s.session.envPath.text (.text s.session.config.envName)
    s.session.config.createMissing s.disk with ⟨_ | environment, disk, events⟩
  · rfl
  · dsimp only
    rcases Store.loadSnapshot s.session.snapshotPath disk with ⟨_ | saved, disk, events⟩
    · rfl
    · dsimp only
      cases copy saved with
      | error failure => simp
      | ok overlay => rfl

/-- What opening comes to, where every copy can be made. -/
theorem enter_eq :
    enter s = match (environmentOutcome s).result with
      | .error failure => ⟨.error failure, { s with disk := (environmentOutcome s).state },
          (environmentOutcome s).events⟩
      | .ok environment => match (snapshotOutcome s).result with
        | .error failure => ⟨.error failure, { s with disk := (snapshotOutcome s).state },
            (environmentOutcome s).events ++ (snapshotOutcome s).events⟩
        | .ok saved =>
          ⟨.ok (), ⟨(snapshotOutcome s).state, s.resolvers ++ [⟨saved, environment⟩],
              { s.session with saved := saved, current := some s.resolvers.length }⟩,
            (environmentOutcome s).events ++ ((snapshotOutcome s).events ++
              [.sessionOpened s.session.config.envName environment.length saved.length])⟩ :=
  enterWith_eq .ok s

theorem snapshotOutcome_state : (snapshotOutcome s).state = (environmentOutcome s).state :=
  Store.loadSnapshot_state _ _

/-- Opening leaves the disk that loading the environment left. -/
theorem disk_enter : (enter s).state.disk = (environmentOutcome s).state := by
  rw [enter_eq]
  split
  · rfl
  · split <;> exact snapshotOutcome_state s

/-- What resetting an open session comes to. -/
theorem resetWith_of_open (h : s.session.current = some id) :
    resetWith copy s = match copy s.session.saved with
      | .error failure => ⟨.error failure, s, []⟩
      | .ok saved =>
        let restored : Resolver := ⟨Entries.putAll [] saved, (s.resolver id).environment⟩
        ⟨.ok (), { s with resolvers := s.resolvers.set id restored }, []⟩ := by
  simp only [resetWith, Action.bind_apply, current_of_open s h, Action.read_apply,
    Action.lift_apply, onResolver, Action.focus, Resolver.restore_entries]
  cases copy s.session.saved <;> rfl

theorem reset_of_open (h : s.session.current = some id) :
    reset s =
      let restored : Resolver :=
        ⟨Entries.putAll [] s.session.saved, (s.resolver id).environment⟩
      ⟨.ok (), { s with resolvers := s.resolvers.set id restored }, []⟩ :=
  resetWith_of_open .ok s h

theorem reset_of_closed (h : s.session.current = none) :
    reset s = ⟨.error .sessionNotOpen, s, []⟩ := by
  simp only [reset, resetWith, Action.bind_apply, current_of_closed s h]

/-- What saving an open session comes to. -/
theorem saveWith_of_open (h : s.session.current = some id) :
    saveWith copy s =
      let o := Store.saveSnapshot s.session.snapshotPath (s.resolver id).overlay s.disk
      match o.result with
      | .error failure => ⟨.error failure, { s with disk := o.state }, o.events⟩
      | .ok kept => match copy kept with
        | .error failure => ⟨.error failure, { s with disk := o.state }, o.events⟩
        | .ok saved =>
          ⟨.ok kept, { s with disk := o.state, session := { s.session with saved := saved } },
            o.events⟩ := by
  simp only [saveWith, Action.bind_apply, current_of_open s h, Action.read_apply, onDisk,
    Action.focus, setSaved, Action.lift_apply, Action.modify_apply, Action.pure_apply,
    List.nil_append, List.append_nil]
  cases (Store.saveSnapshot s.session.snapshotPath (s.resolver id).overlay s.disk).result with
  | error failure => rfl
  | ok kept => cases hc : copy kept <;> simp [hc]

theorem save_of_open (h : s.session.current = some id) :
    save s =
      let o := Store.saveSnapshot s.session.snapshotPath (s.resolver id).overlay s.disk
      match o.result with
      | .error failure => ⟨.error failure, { s with disk := o.state }, o.events⟩
      | .ok kept =>
        ⟨.ok kept, { s with disk := o.state, session := { s.session with saved := kept } },
          o.events⟩ :=
  saveWith_of_open .ok s h

theorem save_result (h : s.session.current = some id) :
    (save s).result =
      (Store.saveSnapshot s.session.snapshotPath (s.resolver id).overlay s.disk).result := by
  rw [save_of_open s h]
  dsimp only
  split <;> simp_all

theorem save_events (h : s.session.current = some id) :
    (save s).events =
      (Store.saveSnapshot s.session.snapshotPath (s.resolver id).overlay s.disk).events := by
  rw [save_of_open s h]
  dsimp only
  split <;> rfl

theorem save_of_closed (h : s.session.current = none) :
    save s = ⟨.error .sessionNotOpen, s, []⟩ := by
  simp only [save, saveWith, Action.bind_apply, current_of_closed s h]

theorem saveOnlyWith_eq : saveOnlyWith copy s =
    ⟨(saveWith copy s).result.map fun _ => (), (saveWith copy s).state, (saveWith copy s).events⟩ :=
  Action.bind_pure_apply (saveWith copy) _ s

theorem saveOnly_eq :
    saveOnly s = ⟨(save s).result.map fun _ => (), (save s).state, (save s).events⟩ :=
  saveOnlyWith_eq .ok s

/-- What saving at the end comes to, if the configuration asks for it. -/
def persistWith : Action Scene Unit := fun s =>
  if s.session.config.persistSnapshot then saveOnlyWith copy s else ⟨.ok (), s, []⟩

/-- What saving at the end comes to, where every copy can be made. -/
def persist : Action Scene Unit := fun s =>
  if s.session.config.persistSnapshot then saveOnly s else ⟨.ok (), s, []⟩

/-- The session without its resolver. -/
def released (s : Scene) : Scene := { s with session := { s.session with current := none } }

/-- What closing an open session comes to. -/
theorem closeWith_of_open (h : s.session.current = some id) :
    closeWith copy s = ⟨(persistWith copy s).result, (persistWith copy s).state.released,
      (persistWith copy s).events ++
        [.sessionClosed (s.resolver id).overlay.length s.session.config.persistSnapshot]⟩ := by
  simp only [closeWith, Action.bind_apply, Action.read_apply, h, Action.attempt, release,
    Action.modify_apply, Action.emit_apply, Action.lift_apply, List.nil_append, persistWith,
    Scene.released]
  split_ifs <;> rfl

theorem close_of_open (h : s.session.current = some id) :
    close s = ⟨(persist s).result, (persist s).state.released, (persist s).events ++
      [.sessionClosed (s.resolver id).overlay.length s.session.config.persistSnapshot]⟩ :=
  closeWith_of_open .ok s h

theorem close_of_closed (h : s.session.current = none) : close s = ⟨.ok (), s, []⟩ := by
  simp only [close, closeWith, Action.bind_apply, Action.read_apply, h, Action.pure_apply,
    List.nil_append]

/-- What closing with an error on its way comes to. -/
theorem closeOnError_eq :
    closeOnError s = match (close s).result with
      | .ok () => close s
      | .error (.snapshotFile path reason) => ⟨.ok (), (close s).state, (close s).events ++
          [.snapshotSaveFailed path.text (Failure.snapshotFile path reason).message]⟩
      | .error failure => ⟨.error failure, (close s).state, (close s).events⟩ := by
  rcases hc : close s with ⟨result, state, events⟩
  have hattempt : closeWith .ok s = ⟨result, state, events⟩ := hc
  simp only [closeOnError, closeOnErrorWith, Action.bind_apply, Action.attempt, hattempt]
  cases result with
  | ok u => simp
  | error failure => cases failure <;> simp

end Tiered.Scene
