import Mathlib
import Tiered.Proofs.Session.Machine
import Tiered.Proofs.Session.Outcome
import Tiered.Proofs.Store.Content

/-!
# Turn — one command to one session

A session where it works has a desk in the machine of tables (`Scene.desk`).  As long as it is fit
(`Scene.Fit`), what a command makes of it is what the machine makes of its desk and of the snapshot
at its place, unless opening, saving or closing fails to use a file (`plays_run`).  What other
sessions have is left as it is (`Scene.Becomes`).
-/

namespace Tiered

open Files Store

/-- What a command does to a session where it works. -/
def Command.run : Command → Action Scene Reply
  | .enter => do
    Scene.enter
    return .done
  | .set key v => do
    Scene.resolving (Resolver.set (.text key) v)
    return .done
  | .restore es => do
    Scene.resolving (Resolver.restore (.entries es))
    return .done
  | .lookup key => do return .found (← Scene.resolving (Resolver.lookup (.text key)))
  | .get key absent => do return .value (← Scene.resolving (Resolver.get (.text key) absent))
  | .reset => do
    Scene.reset
    return .done
  | .save => do return .kept (← Scene.save)
  | .close => do
    Scene.close
    return .done

/-- The command reads or writes files. -/
def Command.UsesFiles : Command → Prop
  | .enter | .save | .close => True
  | _ => False

/-- What a command writes is regular. -/
def Command.Regular : Command → Prop
  | .set _ v => v.Regular
  | .restore es => es.Regular
  | _ => True

namespace Scene

/-- The desk of a session where it works. -/
def desk (s : Scene) : Desk where
  place := s.disk.location s.session.snapshotPath
  environment := chosen s.session.config.envName
    (objectAt s.disk (s.disk.location s.session.envPath))
  persists := s.session.config.persistSnapshot
  overlay := s.session.current.map fun id => (s.resolver id).overlay
  saved := s.session.saved

/-- The snapshot of a session where it works. -/
def snapshot (s : Scene) : Entries := objectAt s.disk s.desk.place

/-- The resolver with a number is there, and its environment is the session's. -/
structure Live (s : Scene) (id : Nat) : Prop where
  there : id < s.resolvers.length
  overlay : (s.resolver id).overlay.Regular
  environment : (s.resolver id).environment = s.desk.environment

/-- The session works on a tree, at two different places, with regular tables. -/
structure Fit (s : Scene) : Prop where
  tree : s.disk.Tree
  envPath : s.session.envPath.Direct
  snapshotPath : s.session.snapshotPath.Direct
  apart : s.disk.location s.session.envPath ≠ s.desk.place
  saved : s.session.saved.Regular
  live : ∀ id, s.session.current = some id → s.Live id

/-- The session has kept its settings, and of all tables at most the one at a place has changed. -/
structure Follows (s s' : Scene) (loc : Location) (snapshot : Entries) : Prop where
  config : s'.session.config = s.session.config
  base : s'.session.base = s.session.base
  disk : KeepsTree s.disk s'.disk
  objects : objectAt s'.disk = Function.update (objectAt s.disk) loc snapshot

/-- The session goes on, and is fit, with a snapshot and at a desk; the resolvers of others are left
as they are. -/
structure Becomes (s s' : Scene) (snapshot : Entries) (desk : Desk) : Prop
    extends s.Follows s' s.desk.place snapshot where
  desk : s'.desk = desk
  fit : s'.Fit
  length : s.resolvers.length ≤ s'.resolvers.length
  others : ∀ id < s.resolvers.length, s.session.current ≠ some id → s'.resolver id = s.resolver id
  current : ∀ id, s'.session.current = some id →
    s.session.current = some id ∨ s.resolvers.length ≤ id

/-- What a session comes to is what the machine says. -/
def Plays (s : Scene) (o : Outcome Scene Reply) (turn : Turn) : Prop :=
  o.result = turn.reply ∧ s.Becomes o.state turn.snapshot turn.desk

variable {s s' : Scene} {id : Nat} {snapshot : Entries} {loc : Location}

theorem desk_overlay (h : s.session.current = some id) :
    s.desk.overlay = some (s.resolver id).overlay :=
  congrArg (Option.map fun id => (s.resolver id).overlay) h

/-! ### Sessions whose settings stay -/

theorem Follows.envPath (h : s.Follows s' loc snapshot) :
    s'.session.envPath = s.session.envPath := by
  rw [Session.envPath, Session.envPath, h.config, h.base]

theorem Follows.snapshotPath (h : s.Follows s' loc snapshot) :
    s'.session.snapshotPath = s.session.snapshotPath := by
  rw [Session.snapshotPath, Session.snapshotPath, h.config, h.base]

theorem Follows.place (h : s.Follows s' loc snapshot) : s'.desk.place = s.desk.place := by
  simp only [Scene.desk, h.snapshotPath, h.disk.location]

/-- A table that changes somewhere else leaves the environment as it is. -/
theorem Follows.environment (h : s.Follows s' loc snapshot)
    (hp : s.disk.location s.session.envPath ≠ loc) :
    s'.desk.environment = s.desk.environment := by
  simp only [Scene.desk, h.config, h.envPath, h.disk.location, h.objects, Function.update_of_ne hp]

/-- What stays of the desk. -/
theorem Follows.desk (h : s.Follows s' loc snapshot)
    (hp : s.disk.location s.session.envPath ≠ loc) :
    s'.desk = { s.desk with overlay := s'.desk.overlay, saved := s'.session.saved } :=
  Desk.ext h.place (h.environment hp) (congrArg Config.persistSnapshot h.config) rfl rfl

/-- A session whose settings stay is fit where its tables are regular. -/
theorem Fit.follows (hf : s.Fit) (h : s.Follows s' loc snapshot)
    (hp : s.disk.location s.session.envPath ≠ loc) (hs : s'.session.saved.Regular)
    (hl : ∀ id, s'.session.current = some id → id < s'.resolvers.length ∧
      (s'.resolver id).overlay.Regular ∧ (s'.resolver id).environment = s.desk.environment) :
    s'.Fit where
  tree := h.disk.tree
  envPath := h.envPath ▸ hf.envPath
  snapshotPath := h.snapshotPath ▸ hf.snapshotPath
  apart := by
    rw [h.envPath, h.disk.location, h.place]
    exact hf.apart
  saved := hs
  live id hid := by
    obtain ⟨hthere, hoverlay, henvironment⟩ := hl id hid
    exact ⟨hthere, hoverlay, henvironment.trans (h.environment hp).symm⟩

/-! ### What a session goes on to -/

/-- Nothing changes on the disk. -/
theorem Fit.follows_self (hf : s.Fit) (resolvers : List Resolver) (current : Option Nat) :
    s.Follows { s with resolvers, session := { s.session with current } } s.desk.place
      s.snapshot where
  config := rfl
  base := rfl
  disk := ⟨rfl, hf.tree⟩
  objects := (Function.update_eq_self _ _).symm

theorem Fit.becomes_self (hf : s.Fit) : s.Becomes s s.snapshot s.desk where
  toFollows := hf.follows_self s.resolvers s.session.current
  desk := rfl
  fit := hf
  length := le_rfl
  others _ _ _ := rfl
  current _ h := .inl h

/-- **Another overlay changes the overlay of the desk.** -/
theorem Fit.becomes_overlaid (hf : s.Fit) (h : s.session.current = some id) {overlay : Entries}
    (ho : overlay.Regular) :
    s.Becomes (s.overlaid id overlay) s.snapshot (s.desk.overlaid overlay) := by
  have hfollows : s.Follows (s.overlaid id overlay) s.desk.place s.snapshot :=
    hf.follows_self _ s.session.current
  have hlive := hf.live id h
  have hresolver := resolver_overlaid hlive.there overlay
  refine ⟨hfollows, ?_, ?_, by simp [overlaid], ?_, fun _ h => .inl h⟩
  · rw [hfollows.desk hf.apart, desk_overlay (s := s.overlaid id overlay) h, hresolver]
    rfl
  · refine hf.follows hfollows hf.apart hf.saved ?_
    intro other hother
    -- the session has no other resolver
    obtain rfl : id = other := Option.some.inj (h.symm.trans hother)
    rw [hresolver]
    exact ⟨by simpa [overlaid] using hlive.there, ho, hlive.environment⟩
  · intro other _ hne
    exact resolver_overlaid_of_ne (fun he : other = id => hne (he ▸ h)) overlay

/-- **Saving changes the snapshot and the reset point.** -/
theorem Fit.becomes_saved (hf : s.Fit) {disk : Disk} {kept : Entries} (hk : kept.Regular)
    (hd : KeepsTree s.disk disk)
    (ho : objectAt disk = Function.update (objectAt s.disk) s.desk.place snapshot) :
    s.Becomes { s with disk, session := { s.session with saved := kept } } snapshot
      (s.desk.keeping kept) := by
  have hfollows : s.Follows { s with disk, session := { s.session with saved := kept } }
      s.desk.place snapshot := ⟨rfl, rfl, hd, ho⟩
  refine ⟨hfollows, hfollows.desk hf.apart, ?_, le_rfl, fun _ _ _ => rfl, fun _ h => .inl h⟩
  refine hf.follows hfollows hf.apart hk ?_
  intro other hother
  have hlive := hf.live other hother
  exact ⟨hlive.there, hlive.overlay, hlive.environment⟩

/-- **Releasing the resolver closes the desk.** -/
theorem Becomes.released {desk : Desk} (h : s.Becomes s' snapshot desk) :
    s.Becomes s'.released snapshot desk.closed := by
  have hfollows : s.Follows s'.released s.desk.place snapshot :=
    ⟨h.config, h.base, h.disk, h.objects⟩
  refine ⟨hfollows, ?_, ?_, h.length, h.others, fun _ hn => absurd hn (by simp [Scene.released])⟩
  · rw [← h.desk]
    rfl
  · exact ⟨h.fit.tree, h.fit.envPath, h.fit.snapshotPath, h.fit.apart, h.fit.saved,
      fun _ hn => absurd hn (by simp [Scene.released])⟩

/-- **A new resolver with the snapshot for its overlay, which is the reset point, too.** -/
theorem Fit.becomes_entered (hf : s.Fit) {disk : Disk} (hd : KeepsTree s.disk disk)
    (ho : objectAt disk = objectAt s.disk) :
    s.Becomes
      ⟨disk, s.resolvers ++ [⟨s.snapshot, s.desk.environment⟩],
        { s.session with saved := s.snapshot, current := some s.resolvers.length }⟩
      s.snapshot ((s.desk.keeping s.snapshot).overlaid s.snapshot) := by
  have hfollows : s.Follows
      ⟨disk, s.resolvers ++ [⟨s.snapshot, s.desk.environment⟩],
        { s.session with saved := s.snapshot, current := some s.resolvers.length }⟩
      s.desk.place s.snapshot := ⟨rfl, rfl, hd, ho.trans (Function.update_eq_self _ _).symm⟩
  have hregular : s.snapshot.Regular := regular_objectAt _ _
  refine ⟨hfollows, ?_, ?_, by simp, ?_, ?_⟩
  · rw [hfollows.desk hf.apart, desk_overlay rfl]
    simp [resolver, Desk.overlaid, Desk.keeping]
  · refine hf.follows hfollows hf.apart hregular ?_
    intro other hother
    obtain rfl := Option.some.inj hother
    simpa [resolver] using hregular
  · intro other hlt _
    simp [resolver, List.getElem?_append_left hlt]
  · intro other hother
    exact .inr (Option.some.inj hother).le

/-! ### Commands -/

/-- What succeeds, and leaves what the machine says, plays with whatever reply is made of it. -/
theorem plays_of_ok {α : Type} {a : Action Scene α} {f : α → Reply} {x : α} {desk : Desk}
    (h : (a s).result = .ok x ∧ s.Becomes (a s).state snapshot desk) :
    s.Plays ((a >>= fun x => pure (f x)) s) ⟨.ok (f x), snapshot, desk⟩ := by
  rw [Action.bind_pure_apply, h.1]
  exact ⟨rfl, h.2⟩

/-- What leaves everything as it is plays with its own result. -/
theorem Fit.plays_self (hf : s.Fit) (reply : Except Failure Reply) (events : List Log.Event) :
    s.Plays ⟨reply, s, events⟩ ⟨reply, s.snapshot, s.desk⟩ :=
  ⟨rfl, hf.becomes_self⟩

/-- The overlay that an action on its resolver leaves is what changes of an open session. -/
theorem Fit.plays_resolving (hf : s.Fit) (h : s.session.current = some id) {α : Type}
    {a : Action Resolver α} {f : α → Reply} {overlay : Entries} (ho : overlay.Regular)
    (hs : (a (s.resolver id)).state = ⟨overlay, (s.resolver id).environment⟩) :
    s.Plays ((resolving a >>= fun x => pure (f x)) s)
      ⟨(a (s.resolver id)).result.map f, s.snapshot, s.desk.overlaid overlay⟩ := by
  have hbecomes := hf.becomes_overlaid h ho
  rw [overlaid, ← hs] at hbecomes
  rw [Action.bind_pure_apply, resolving_of_open s a h]
  exact ⟨rfl, hbecomes⟩

theorem desk_overlaid_self (h : s.session.current = some id) :
    s.desk.overlaid (s.resolver id).overlay = s.desk := by
  rw [Desk.overlaid, ← desk_overlay h]

/-- The tiers say about a key what the desk says. -/
theorem find_desk (hl : s.Live id) (key : Text) :
    s.desk.find (s.resolver id).overlay key =
      (Resolver.nameOf (.text key)).map ((s.resolver id).answer (.text key)) := by
  rw [Desk.find, ← hl.environment]
  congr 1
  funext name
  rw [Resolver.answer, Resolver.find?]
  cases (s.resolver id).overlay.get? (.text key) with
  | some v => rfl
  | none => cases (s.resolver id).environment.get? (.text key) <;> rfl

/-- The environment that is loaded is the one of the desk. -/
theorem Fit.environmentOutcome_content (hf : s.Fit) (hu : Undisturbed s.environmentOutcome.result) :
    s.environmentOutcome.result = .ok s.desk.environment ∧
      KeepsTree s.disk s.environmentOutcome.state ∧
      objectAt s.environmentOutcome.state = objectAt s.disk := by
  have hpath : Path.ofText s.session.envPath.text = s.session.envPath :=
    Path.ofText_text hf.envPath.toWellFormed
  have hdirect : (Path.ofText s.session.envPath.text).Direct := by
    rw [hpath]
    exact hf.envPath
  have h := loadEnvironment_content s.session.config.envName hf.tree hdirect
    s.session.config.createMissing hu
  rwa [hpath] at h

/-- The snapshot that is loaded is the one of the session. -/
theorem Fit.snapshotOutcome_content (hf : s.Fit)
    (hd : KeepsTree s.disk s.environmentOutcome.state)
    (ho : objectAt s.environmentOutcome.state = objectAt s.disk)
    (hu : Undisturbed s.snapshotOutcome.result) :
    s.snapshotOutcome.result = .ok s.snapshot ∧
      s.snapshotOutcome.state = s.environmentOutcome.state := by
  have h := loadSnapshot_content hd.tree hf.snapshotPath hu
  rwa [ho, hd.location] at h

/-- Opening, for the first time or anew. -/
theorem Fit.plays_enter (hf : s.Fit) (hu : Undisturbed (enter s).result) :
    (enter s).result = .ok () ∧ s.Becomes (enter s).state s.snapshot
      ((s.desk.keeping s.snapshot).overlaid s.snapshot) := by
  rw [enter_eq] at hu ⊢
  -- the environment comes first, and its file may be made
  have hloads : Undisturbed s.environmentOutcome.result := by
    intro failure hfail
    rw [hfail] at hu
    exact hu failure rfl
  obtain ⟨henvironment, hkeeps, hobjects⟩ := hf.environmentOutcome_content hloads
  rw [henvironment] at hu ⊢
  -- no table has changed when the snapshot is loaded
  have hsnapshot : Undisturbed s.snapshotOutcome.result := by
    intro failure hfail
    rw [hfail] at hu
    exact hu failure rfl
  obtain ⟨hresult, hstate⟩ := hf.snapshotOutcome_content hkeeps hobjects hsnapshot
  simp only [hresult, hstate]
  exact ⟨trivial, hf.becomes_entered hkeeps hobjects⟩

/-- Saving an open session. -/
theorem Fit.plays_save (hf : s.Fit) (h : s.session.current = some id)
    (hu : Undisturbed (save s).result) :
    (save s).result = .ok (s.resolver id).overlay.keep ∧
      s.Becomes (save s).state (s.resolver id).overlay.keep.reread
        (s.desk.keeping (s.resolver id).overlay.keep) := by
  have hlive := hf.live id h
  have hwrites : Undisturbed (saveSnapshot s.session.snapshotPath (s.resolver id).overlay
      s.disk).result := by
    rwa [← save_result s h]
  obtain ⟨hok, hkeeps, hobjects⟩ := saveSnapshot_content hf.tree hf.snapshotPath hlive.overlay
    hwrites
  rw [save_of_open s h]
  simp only [hok]
  exact ⟨trivial, hf.becomes_saved hlive.overlay.keep hkeeps hobjects⟩

/-- Closing an open session, which saves if that is asked for. -/
theorem Fit.plays_close (hf : s.Fit) (h : s.session.current = some id)
    (hu : Undisturbed (close s).result) :
    s.Plays (Command.close.run s)
      (s.desk.turnOpen s.snapshot (s.resolver id).overlay .close) := by
  rw [close_of_open s h] at hu
  by_cases hp : s.desk.persists = true
  · have hpersist : persist s = saveOnly s := if_pos hp
    rw [hpersist, saveOnly_eq] at hu
    obtain ⟨hok, hbecomes⟩ := hf.plays_save h (undisturbed_map_iff.1 hu)
    rw [Desk.turnOpen, if_pos hp]
    refine plays_of_ok (x := ()) ?_
    rw [close_of_open s h, hpersist, saveOnly_eq, hok]
    exact ⟨rfl, hbecomes.released⟩
  · have hpersist : persist s = ⟨.ok (), s, []⟩ := if_neg hp
    rw [Desk.turnOpen, if_neg hp]
    refine plays_of_ok (x := ()) ?_
    rw [close_of_open s h, hpersist]
    exact ⟨rfl, hf.becomes_self.released⟩

/-- **Every command plays on an open session.** -/
theorem Fit.plays_open (hf : s.Fit) (h : s.session.current = some id) {c : Command}
    (hc : c.Regular) (hu : c.UsesFiles → Undisturbed (c.run s).result) :
    s.Plays (c.run s) (s.desk.turnOpen s.snapshot (s.resolver id).overlay c) := by
  have hlive := hf.live id h
  cases c with
  | enter => exact plays_of_ok (hf.plays_enter (undisturbed_bind_pure_iff.1 (hu trivial)))
  | set key v =>
      refine hf.plays_resolving h (hlive.overlay.put key hc) ?_
      rw [Resolver.set_text]
  | restore es =>
      refine hf.plays_resolving h hc ?_
      rw [Resolver.restore_entries, Entries.putAll_nil hc.distinct]
  | lookup key =>
      have hplays := hf.plays_resolving (a := Resolver.lookup (.text key)) (f := .found) h
        hlive.overlay (Resolver.lookup_text_state _ key)
      rwa [Resolver.lookup_text_result, ← find_desk hlive, desk_overlaid_self h] at hplays
  | get key absent =>
      have hplays := hf.plays_resolving (a := Resolver.get (.text key) absent) (f := .value) h
        hlive.overlay (by rw [Resolver.get_eq, Resolver.lookup_text_state])
      rwa [Resolver.get_eq, Resolver.lookup_text_result, ← find_desk hlive,
        desk_overlaid_self h, map_map] at hplays
  | reset =>
      rw [Command.run, Action.bind_pure_apply, reset_of_open s h,
        Entries.putAll_nil hf.saved.distinct]
      exact ⟨rfl, hf.becomes_overlaid h hf.saved⟩
  | save => exact plays_of_ok (hf.plays_save h (undisturbed_bind_pure_iff.1 (hu trivial)))
  | close => exact hf.plays_close h (undisturbed_bind_pure_iff.1 (hu trivial))

/-- Every command plays on a session that is not open. -/
theorem Fit.plays_closed (hf : s.Fit) (h : s.session.current = none) {c : Command}
    (hu : c.UsesFiles → Undisturbed (c.run s).result) :
    s.Plays (c.run s) (s.desk.turnClosed s.snapshot c) := by
  cases c with
  | enter => exact plays_of_ok (hf.plays_enter (undisturbed_bind_pure_iff.1 (hu trivial)))
  | reset =>
      rw [Command.run, Action.bind_pure_apply, reset_of_closed s h]
      exact hf.plays_self _ _
  | save =>
      rw [Command.run, Action.bind_pure_apply, save_of_closed s h]
      exact hf.plays_self _ _
  | close =>
      rw [Command.run, Action.bind_pure_apply, close_of_closed s h]
      exact hf.plays_self _ _
  | _ =>
      rw [Command.run, Action.bind_pure_apply, resolving_of_closed s _ h]
      exact hf.plays_self _ _

/-- **Every command plays.** -/
theorem Fit.plays_run (hf : s.Fit) {c : Command} (hc : c.Regular)
    (hu : c.UsesFiles → Undisturbed (c.run s).result) :
    s.Plays (c.run s) (s.desk.turn s.snapshot c) := by
  rw [Desk.turn]
  cases h : s.session.current with
  | none =>
      have hoverlay : s.desk.overlay = none := congrArg (Option.map _) h
      rw [hoverlay]
      exact hf.plays_closed h hu
  | some id =>
      rw [desk_overlay h]
      exact hf.plays_open h hc hu

end Scene

end Tiered
