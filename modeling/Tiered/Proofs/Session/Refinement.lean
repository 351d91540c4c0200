import Mathlib
import Tiered.Proofs.Session.Turn

/-!
# Refinement — sessions on one disk are the machine of tables

What a workspace is to the machine of tables is its `view`.  As long as the workspace is fit
(`Workspace.Fit`), a command to one of its sessions gives the reply of the machine and leaves the
view that the machine goes on to (`Fit.step`), unless it fails to use a file, and so does every run
(`Fit.run`).  New sessions are fit where no snapshot has the place of an environment file
(`Ready.fit`), so every run of theirs is one of the machine (`run_refines`).
-/

namespace Tiered

open Files Store

namespace Workspace

/-- A session where it works. -/
def scene (w : Workspace) (m : Member) : Scene := ⟨w.disk, w.resolvers, m.session⟩

/-- What a workspace is to the machine. -/
def view (w : Workspace) : Machine where
  snapshots := objectAt w.disk
  desks name := (w.member? name).map fun m => (w.scene m).desk

/-- What a command to the session with a name comes to. -/
def step (w : Workspace) (name : String) (c : Command) : Except Failure Reply × Workspace :=
  let o := within name c.run w
  (o.result, o.state)

/-- What commands to sessions come to. -/
def run (w : Workspace) (cs : List (String × Command)) : List (Except Failure Reply) × Workspace :=
  replies step w cs

/-- Every session is fit, no two sessions have the same resolver, and no environment file is where
a snapshot is. -/
structure Fit (w : Workspace) : Prop where
  scenes : ∀ name m, w.member? name = some m → (w.scene m).Fit
  separate : ∀ name name' m m' id, name ≠ name' → w.member? name = some m →
    w.member? name' = some m' → m.session.current = some id → m'.session.current ≠ some id
  apart : ∀ name name' m m', w.member? name = some m → w.member? name' = some m' →
    w.disk.location m.session.envPath ≠ w.disk.location m'.session.snapshotPath

variable {w : Workspace} {name other : String} {m n : Member} {c : Command}

/-! ### Sessions by name -/

theorem name_of_member? (h : w.member? name = some m) : m.name = name := by
  simpa using List.find?_some h

theorem member?_put_self (w : Workspace) (m : Member) : (w.put m).member? m.name = some m := by
  simp [put, member?]

theorem member?_put_of_ne (h : other ≠ m.name) :
    (w.put m).member? other = w.member? other := by
  simp only [put, member?]
  rw [List.find?_cons_of_neg (by simpa using h.symm), List.find?_filter]
  congr 1
  funext k
  by_cases hk : k.name = other
  · simp [hk, h]
  · simp [hk]

/-- The workspace that a session leaves which went on to a scene. -/
def after (w : Workspace) (m : Member) (s : Scene) : Workspace :=
  { w.put { m with session := s.session } with disk := s.disk, resolvers := s.resolvers }

theorem member?_after_self (h : w.member? name = some m) (s : Scene) :
    (w.after m s).member? name = some { m with session := s.session } := by
  obtain rfl := name_of_member? h
  exact member?_put_self w { m with session := s.session }

theorem member?_after_of_ne (h : w.member? name = some m) (hne : other ≠ name) (s : Scene) :
    (w.after m s).member? other = w.member? other := by
  obtain rfl := name_of_member? h
  exact member?_put_of_ne hne

/-- What a command to a session comes to is what it makes of the session's scene. -/
theorem step_of_member (h : w.member? name = some m) (c : Command) :
    w.step name c = ((c.run (w.scene m)).result, w.after m (c.run (w.scene m)).state) := by
  simp only [step, within, Action.bind_apply, Action.read_apply, h, Action.heardIf, Action.focus,
    scene, after]

theorem step_of_missing (h : w.member? name = none) (c : Command) :
    w.step name c = (.error .sessionNotOpen, w) := by
  simp only [step, within, Action.bind_apply, Action.read_apply, h, Action.fail_apply]

/-! ### One step -/

section Step

variable {s : Scene} {snapshot : Entries} {desk : Desk}

/-- For another session, the settings stay and one table changes. -/
theorem follows_after (h : (w.scene m).Becomes s snapshot desk) (n : Member) :
    (w.scene n).Follows ((w.after m s).scene n) (w.scene m).desk.place snapshot :=
  ⟨rfl, rfl, h.disk, h.objects⟩

/-- The resolver of another session stays as it is. -/
theorem Fit.resolver_after (hw : w.Fit) (hm : w.member? name = some m)
    (hn : w.member? other = some n) (hne : other ≠ name)
    (h : (w.scene m).Becomes s snapshot desk) {id : Nat} (hid : n.session.current = some id) :
    ((w.after m s).scene n).resolver id = (w.scene n).resolver id :=
  h.others id ((hw.scenes other n hn).live id hid).there
    (hw.separate other name n m id hne hn hm hid)

/-- **Another session stays fit, at its desk.** -/
theorem Fit.other_after (hw : w.Fit) (hm : w.member? name = some m)
    (hn : w.member? other = some n) (hne : other ≠ name)
    (h : (w.scene m).Becomes s snapshot desk) :
    ((w.after m s).scene n).Fit ∧ ((w.after m s).scene n).desk = (w.scene n).desk := by
  have hfollows := follows_after h n
  have hfit := hw.scenes other n hn
  have hplace := hw.apart other name n m hn hm
  constructor
  · refine hfit.follows hfollows hplace hfit.saved ?_
    intro id hid
    have hlive := hfit.live id hid
    rw [hw.resolver_after hm hn hne h hid]
    exact ⟨hlive.there.trans_le h.length, hlive.overlay, hlive.environment⟩
  · have hoverlay : ((w.after m s).scene n).desk.overlay = (w.scene n).desk.overlay := by
      cases hid : n.session.current with
      | none => simp [Scene.desk, scene, hid]
      | some id =>
          rw [Scene.desk_overlay (s := (w.after m s).scene n) hid,
            Scene.desk_overlay (s := w.scene n) hid, hw.resolver_after hm hn hne h hid]
    rw [hfollows.desk hplace, hoverlay]
    rfl

/-- A session never has the resolver of another one. -/
theorem Fit.current_after (hw : w.Fit) (hm : w.member? name = some m)
    (hn : w.member? other = some n) (hne : other ≠ name)
    (h : (w.scene m).Becomes s snapshot desk) {id : Nat} (hid : n.session.current = some id) :
    s.session.current ≠ some id := by
  intro hs
  rcases h.current id hs with hold | hnew
  · exact hw.separate other name n m id hne hn hm hid hold
  · exact absurd ((hw.scenes other n hn).live id hid).there (Nat.not_lt.2 hnew)

/-- Every session that is there after a step was there before it, with the same paths. -/
theorem exists_member_of_after (hm : w.member? name = some m)
    (h : (w.scene m).Becomes s snapshot desk) (hn : (w.after m s).member? other = some n) :
    ∃ before, w.member? other = some before ∧ n.session.envPath = before.session.envPath ∧
      n.session.snapshotPath = before.session.snapshotPath := by
  by_cases hne : other = name
  · subst hne
    rw [member?_after_self hm] at hn
    obtain rfl := Option.some.inj hn
    exact ⟨m, hm, h.envPath, h.snapshotPath⟩
  · rw [member?_after_of_ne hm hne] at hn
    exact ⟨n, hn, rfl, rfl⟩

/-- **A workspace stays fit** when one of its sessions goes on. -/
theorem Fit.after (hw : w.Fit) (hm : w.member? name = some m)
    (h : (w.scene m).Becomes s snapshot desk) : (w.after m s).Fit where
  scenes := by
    intro other n hn
    by_cases hne : other = name
    · subst hne
      rw [member?_after_self hm] at hn
      obtain rfl := Option.some.inj hn
      exact h.fit
    · rw [member?_after_of_ne hm hne] at hn
      exact (hw.other_after hm hn hne h).1
  separate := by
    intro one two n n' id hne hn hn' hid
    -- only one of two sessions can be the one that goes on
    by_cases hone : one = name
    · subst hone
      rw [member?_after_self hm] at hn
      rw [member?_after_of_ne hm hne.symm] at hn'
      obtain rfl := Option.some.inj hn
      exact fun hid' => hw.current_after hm hn' hne.symm h hid' hid
    · rw [member?_after_of_ne hm hone] at hn
      by_cases htwo : two = name
      · subst htwo
        rw [member?_after_self hm] at hn'
        obtain rfl := Option.some.inj hn'
        exact hw.current_after hm hn hone h hid
      · rw [member?_after_of_ne hm htwo] at hn'
        exact hw.separate one two n n' id hne hn hn' hid
  apart := by
    intro one two n n' hn hn'
    -- paths and the current folder stay, and so do places
    obtain ⟨before, hb, henv, -⟩ := exists_member_of_after hm h hn
    obtain ⟨before', hb', -, hsnapshot⟩ := exists_member_of_after hm h hn'
    have hkeeps : KeepsTree w.disk (w.after m s).disk := h.disk
    rw [henv, hsnapshot, hkeeps.location, hkeeps.location]
    exact hw.apart one two before before' hb hb'

/-- **The view changes at the session's desk and place only.** -/
theorem Fit.view_after (hw : w.Fit) (hm : w.member? name = some m)
    (h : (w.scene m).Becomes s snapshot desk) :
    (w.after m s).view =
      ⟨Function.update w.view.snapshots (w.scene m).desk.place snapshot,
        Function.update w.view.desks name (some desk)⟩ := by
  refine Machine.ext h.objects ?_
  funext other
  by_cases hne : other = name
  · subst hne
    simp only [view, member?_after_self hm, Option.map_some, Function.update_self]
    exact congrArg some h.desk
  · simp only [view, member?_after_of_ne hm hne, Function.update_of_ne hne]
    cases hn : w.member? other with
    | none => rfl
    | some n => exact congrArg some (hw.other_after hm hn hne h).2

/-- **One step of a fit workspace is one step of the machine.** -/
theorem Fit.step (hw : w.Fit) (hc : c.Regular)
    (hu : c.UsesFiles → Undisturbed (w.step name c).1) :
    (w.step name c).2.Fit ∧ w.view.step name c = ((w.step name c).1, (w.step name c).2.view) := by
  cases hm : w.member? name with
  | none =>
      have hdesk : w.view.desks name = none := by simp only [view, hm, Option.map_none]
      rw [step_of_missing hm]
      simp only [Machine.step, hdesk]
      exact ⟨hw, trivial⟩
  | some m =>
      have hdesk : w.view.desks name = some (w.scene m).desk := by
        simp only [view, hm, Option.map_some]
      rw [step_of_member hm] at hu ⊢
      obtain ⟨hreply, hbecomes⟩ := (hw.scenes name m hm).plays_run hc hu
      refine ⟨hw.after hm hbecomes, ?_⟩
      simp only [Machine.step, hdesk]
      rw [hreply, hw.view_after hm hbecomes]
      rfl

end Step

/-! ### Every run -/

/-- **Every run of a fit workspace is one of the machine.** -/
theorem Fit.run (hw : w.Fit) {cs : List (String × Command)} (hc : ∀ e ∈ cs, e.2.Regular)
    (hu : ∀ p ∈ cs.zip (w.run cs).1, p.1.2.UsesFiles → Undisturbed p.2) :
    (w.run cs).2.Fit ∧ w.view.run cs = ((w.run cs).1, (w.run cs).2.view) := by
  induction cs generalizing w with
  | nil => exact ⟨hw, rfl⟩
  | cons e cs ih =>
      obtain ⟨name, c⟩ := e
      rw [List.forall_mem_cons] at hc
      have hu' : (c.UsesFiles → Undisturbed (w.step name c).1) ∧
          ∀ p ∈ cs.zip ((w.step name c).2.run cs).1, p.1.2.UsesFiles → Undisturbed p.2 :=
        List.forall_mem_cons.1 hu
      obtain ⟨hfit, hstep⟩ := hw.step hc.1 hu'.1
      obtain ⟨hrest, hrun⟩ := ih hfit hc.2 hu'.2
      refine ⟨hrest, ?_⟩
      have hview : w.view.run ((name, c) :: cs) =
          ((w.view.step name c).1 :: ((w.view.step name c).2.run cs).1,
            ((w.view.step name c).2.run cs).2) := rfl
      rw [hview, hstep, hrun]
      rfl

/-- The sessions are new and on a tree, and their paths have no double points and lead to different
places for environment files and for snapshots. -/
structure Ready (w : Workspace) : Prop where
  tree : w.disk.Tree
  new : ∀ name m, w.member? name = some m → m.session = .new m.session.config m.session.base
  direct : ∀ name m, w.member? name = some m →
    m.session.envPath.Direct ∧ m.session.snapshotPath.Direct
  apart : ∀ name name' m m', w.member? name = some m → w.member? name' = some m' →
    w.disk.location m.session.envPath ≠ w.disk.location m'.session.snapshotPath

theorem Ready.current (hw : w.Ready) (hm : w.member? name = some m) : m.session.current = none := by
  rw [hw.new name m hm]
  rfl

theorem Ready.fit (hw : w.Ready) : w.Fit where
  scenes name m hm :=
    { tree := hw.tree
      envPath := (hw.direct name m hm).1
      snapshotPath := (hw.direct name m hm).2
      apart := hw.apart name name m m hm hm
      saved := by
        have hsaved : (w.scene m).session.saved = [] := congrArg Session.saved (hw.new name m hm)
        rw [hsaved]
        exact Entries.regular_nil
      live := fun id hid => absurd (hid.symm.trans (hw.current hm)) (by simp) }
  separate _ _ _ _ _ _ hm _ hid := absurd (hid.symm.trans (hw.current hm)) (by simp)
  apart := hw.apart

/-- A new session that makes no environment file, in the folder `/w`. -/
def newMember (name : String) : Member :=
  ⟨name, .new { Config.default with createMissing := false } ⟨[slash], [[0x77]]⟩, true⟩

/-- Two new sessions in the folder `/w`, on a disk without files. -/
def pair : Workspace := ⟨.bare [[0x77]], [], [newMember "a", newMember "b"], []⟩

end Workspace

end Tiered
