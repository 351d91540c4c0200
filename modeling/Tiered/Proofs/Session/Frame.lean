import Mathlib
import Tiered.Proofs.Session.Growth
import Tiered.Proofs.Store.Frame

/-!
# Frame — which files a session writes, and when

An operation on a session leaves the disk as it is, unless it opens the session where a missing
environment file is to be made, or it saves (`Operation.disk_run`).  In the first case it writes at
most the environment file and in the second at most the snapshot file, and nothing is ever taken
away.  So in a whole run each of the two files is written by its own operations alone, and no other
file is (`file_frame`).
-/

open Tiered.Action

namespace Tiered

open Files Store

namespace Scene

variable {s t : Scene}

/-- The location of the environment file. -/
def environmentTarget (s : Scene) : Location := s.disk.target s.environmentPath

/-- The location of the snapshot file. -/
def snapshotTarget (s : Scene) : Location := s.disk.target s.session.snapshotPath

theorem Later.environmentTarget (h : s.Later t) : t.environmentTarget = s.environmentTarget := by
  rw [Scene.environmentTarget, h.environmentPath, Disk.target_congr h.disk.here]
  rfl

theorem Later.snapshotTarget (h : s.Later t) : t.snapshotTarget = s.snapshotTarget := by
  rw [Scene.snapshotTarget, h.snapshotPath, Disk.target_congr h.disk.here]
  rfl

/-! ### Saving and closing -/

/-- Saving writes at most the snapshot file. -/
theorem save_receives (s : Scene) :
    ∃ content, s.disk.Receives (save s).state.disk s.session.snapshotPath content := by
  cases h : s.session.current with
  | none =>
      rw [save_of_closed s h]
      exact ⟨[], (Disk.MakesWay.refl s.disk _).receives⟩
  | some id =>
      have hdisk : (save s).state.disk =
          (saveSnapshot s.session.snapshotPath (s.resolver id).overlay s.disk).state := by
        rw [save_of_open s h]
        dsimp only
        split <;> rfl
      rw [hdisk]
      exact saveSnapshot_receives _ _ _

/-- Closing an open session saves or leaves the disk. -/
theorem disk_close (s : Scene) : (close s).state.disk = s.disk ∨
    s.session.config.persistSnapshot = true ∧ (close s).state.disk = (save s).state.disk := by
  cases h : s.session.current with
  | none =>
      rw [close_of_closed s h]
      exact .inl rfl
  | some id =>
      rw [close_of_open s h, persist]
      split_ifs with hp
      · rw [saveOnly_eq]
        exact .inr ⟨hp, rfl⟩
      · exact .inl rfl

theorem disk_exit (failing : Bool) (s : Scene) :
    (exit failing s).state.disk = (close s).state.disk := by
  cases failing with
  | false => rfl
  | true =>
      have hexit : exit true s = closeOnError s := rfl
      rw [hexit, closeOnError_eq]
      split <;> rfl

end Scene

/-! ### One step -/

namespace Step

/-- The step opens the session, finds no environment file, and is to make one. -/
structure MakesEnvironment (step : Step) : Prop where
  opens : step.operation = .enter
  wanted : step.before.session.config.createMissing = true
  missing : step.before.disk.exists? step.before.environmentPath.text = .ok false

/-- The step saves, or closes a session that is to be saved. -/
def SavesSnapshot (step : Step) : Prop :=
  step.operation = .save ∨
    step.operation.closes = true ∧ step.before.session.config.persistSnapshot = true

/-- The step writes the file at a location. -/
def Writes (step : Step) (loc : Location) : Prop :=
  step.before.disk.Writes step.outcome.state.disk loc

end Step

/-- **What an operation does to the disk**: nothing, unless it makes the environment file or
saves. -/
theorem Operation.disk_run (o : Operation) (s : Scene) (h : ∀ disk, o ≠ .disturb disk) :
    (o.run s).state.disk = s.disk ∨
      Step.MakesEnvironment ⟨o, s, o.run s⟩ ∧ s.disk.Receives (o.run s).state.disk
        s.environmentPath (Text.Utf8.encode emptyObject) ∨
      Step.SavesSnapshot ⟨o, s, o.run s⟩ ∧ ∃ content,
        s.disk.Receives (o.run s).state.disk s.session.snapshotPath content := by
  -- closing, in either way, saves or leaves the disk
  have hclosing : ∀ o : Operation, o.closes = true →
      (o.run s).state.disk = (Scene.close s).state.disk → (o.run s).state.disk = s.disk ∨
        Step.SavesSnapshot ⟨o, s, o.run s⟩ ∧ ∃ content,
          s.disk.Receives (o.run s).state.disk s.session.snapshotPath content := by
    intro o hc hdisk
    rcases Scene.disk_close s with hsame | ⟨hp, hsave⟩
    · exact .inl (hdisk.trans hsame)
    · refine .inr ⟨.inr ⟨hc, hp⟩, ?_⟩
      rw [hdisk, hsave]
      exact Scene.save_receives s
  cases o with
  | enter =>
      rw [run, bind_pure_state, Scene.disk_enter]
      refine (loadEnvironment_receives _ _ _ _).imp_right fun ⟨hwanted, hmissing, hreceives⟩ => ?_
      exact .inl ⟨⟨rfl, hwanted, hmissing⟩, hreceives⟩
  | save =>
      rw [run, bind_pure_state]
      exact .inr (.inr ⟨.inl rfl, Scene.save_receives s⟩)
  | close => exact (hclosing .close rfl (by rw [run, bind_pure_state])).imp_right .inr
  | exit failing =>
      refine (hclosing (.exit failing) rfl ?_).imp_right .inr
      rw [run, bind_pure_state, Scene.disk_exit]
  | disturb disk => exact absurd rfl (h disk)
  | reset | render v strict | ask request | askKept id request =>
      have hkeeps : ∀ o : Operation, o.resolves = true → Keeps Scene.disk o.run :=
        fun _ => keeps_run fun _ _ => rfl
      exact .inl (hkeeps _ rfl s)

namespace Step

/-- What a step may do to the files of a session, which are at two locations. -/
structure Framed (environment snapshot : Location) (step : Step) : Prop where
  /-- Nothing is taken away. -/
  retains : step.before.disk.Retains step.outcome.state.disk
  /-- No other file is written. -/
  only : ∀ loc, step.Writes loc → loc = environment ∨ loc = snapshot
  /-- The environment file is written by the opening that makes it alone. -/
  environment : step.Writes environment → step.MakesEnvironment
  /-- The snapshot file is written by saving alone. -/
  snapshot : step.Writes snapshot → step.SavesSnapshot
  /-- What neither makes the one nor saves the other leaves the disk as it is. -/
  still : ¬ step.MakesEnvironment → ¬ step.SavesSnapshot →
    step.outcome.state.disk = step.before.disk

/-- **Every step keeps to its files.** -/
theorem framed_run {o : Operation} {s : Scene} (h : ∀ disk, o ≠ .disturb disk)
    (hdiffer : s.environmentTarget ≠ s.snapshotTarget) :
    Framed s.environmentTarget s.snapshotTarget ⟨o, s, o.run s⟩ := by
  have hdisk := o.disk_run s h
  have hwritten : ∀ loc, Writes ⟨o, s, o.run s⟩ loc →
      loc = s.environmentTarget ∧ MakesEnvironment ⟨o, s, o.run s⟩ ∨
        loc = s.snapshotTarget ∧ SavesSnapshot ⟨o, s, o.run s⟩ := by
    rintro loc ⟨octets, hn', hn⟩
    rcases hdisk with hsame | ⟨hmakes, hreceives⟩ | ⟨hsaves, content, hreceives⟩
    · rw [hsame] at hn'
      exact absurd hn' hn
    · exact .inl ⟨hreceives.target_of_writes ⟨octets, hn', hn⟩, hmakes⟩
    · exact .inr ⟨hreceives.target_of_writes ⟨octets, hn', hn⟩, hsaves⟩
  refine ⟨?_, fun loc hw => ?_, fun hw => ?_, fun hw => ?_, fun hmakes hsaves => ?_⟩
  · rcases hdisk with hsame | ⟨-, hreceives⟩ | ⟨-, content, hreceives⟩
    · dsimp only
      rw [hsame]
      exact .refl s.disk
    · exact hreceives.retains
    · exact hreceives.retains
  · exact (hwritten loc hw).imp And.left And.left
  · exact ((hwritten _ hw).resolve_right fun h => hdiffer h.1).2
  · exact ((hwritten _ hw).resolve_left fun h => hdiffer h.1.symm).2
  · exact (hdisk.resolve_right fun h => h.elim (fun h => hmakes h.1) fun h => hsaves h.1)

end Step

/-! ### A run -/

namespace Scene

variable {s : Scene} {os : List Operation}

/-- A step of a run is one of its operations, done where no setting has changed. -/
theorem of_mem_steps (h : ∀ o ∈ os, ∀ disk, o ≠ .disturb disk) : ∀ step ∈ s.steps os,
    step.operation ∈ os ∧ s.Later step.before ∧
      step.outcome = step.operation.run step.before := by
  induction os generalizing s with
  | nil => exact List.forall_mem_nil _
  | cons o os ih =>
      obtain ⟨ho, hos⟩ := List.forall_mem_cons.1 h
      have hfirst : s.Later s := refl_of Scene.Later s
      refine List.forall_mem_cons.2 ⟨⟨List.mem_cons_self, hfirst, rfl⟩, fun step hstep => ?_⟩
      obtain ⟨hmem, hlater, houtcome⟩ := ih (s := (o.run s).state) hos step hstep
      have hstart : s.Later step.before :=
        trans_of Scene.Later (Operation.leads_run ho s) hlater
      exact ⟨List.mem_cons_of_mem o hmem, hstart, houtcome⟩

/-- **Every step of a run keeps to the files that are those of the session at its start.** -/
theorem framed_steps (h : ∀ o ∈ os, ∀ disk, o ≠ .disturb disk)
    (hdiffer : s.environmentTarget ≠ s.snapshotTarget) :
    ∀ step ∈ s.steps os, step.Framed s.environmentTarget s.snapshotTarget := by
  rintro ⟨o, before, outcome⟩ hstep
  obtain ⟨hmem, hlater, houtcome⟩ := of_mem_steps h _ hstep
  dsimp only at hmem hlater houtcome
  subst houtcome
  have hframed := Step.framed_run (s := before) (h o hmem)
  rw [hlater.environmentTarget, hlater.snapshotTarget] at hframed
  exact hframed hdiffer

/-- What no step takes away or writes is there behind a run as it was before. -/
theorem file_after_iff {loc : Location} (hr : ∀ step ∈ s.steps os,
      step.before.disk.Retains step.outcome.state.disk)
    (hw : ∀ step ∈ s.steps os, ¬ step.Writes loc) (octets : Text.Utf8.Octets) :
    (s.after os).disk.node? loc = some (.file octets) ↔
      s.disk.node? loc = some (.file octets) := by
  induction os generalizing s with
  | nil => exact Iff.rfl
  | cons o os ih =>
      obtain ⟨hstep, hr⟩ := List.forall_mem_cons.1 hr
      obtain ⟨hunwritten, hw⟩ := List.forall_mem_cons.1 hw
      exact (ih hr hw).trans (Disk.file_iff_of_not_writes hstep hunwritten octets)

theorem retains_after (hr : ∀ step ∈ s.steps os,
    step.before.disk.Retains step.outcome.state.disk) : s.disk.Retains (s.after os).disk := by
  induction os generalizing s with
  | nil => exact .refl s.disk
  | cons o os ih =>
      obtain ⟨hstep, hr⟩ := List.forall_mem_cons.1 hr
      exact hstep.trans (ih hr)

/-- **The frame of a session.**  In every run of operations, whatever fails in it, nothing is taken
away, each of the two files is written by its own operations alone, and no other file is.  A session
that is neither saved nor closed to be saved leaves the snapshot file, or that there is none, as it
was. -/
theorem file_frame (s : Scene) (os : List Operation)
    (h : ∀ o ∈ os, ∀ disk, o ≠ .disturb disk)
    (hdiffer : s.environmentTarget ≠ s.snapshotTarget) :
    s.disk.Retains (s.after os).disk ∧
      (∀ step ∈ s.steps os, step.Framed s.environmentTarget s.snapshotTarget) ∧
      (s.session.config.persistSnapshot = false → Operation.save ∉ os → ∀ octets,
        (s.after os).disk.node? s.snapshotTarget = some (.file octets) ↔
          s.disk.node? s.snapshotTarget = some (.file octets)) := by
  have hframed := framed_steps h hdiffer
  have hretains : ∀ step ∈ s.steps os, step.before.disk.Retains step.outcome.state.disk :=
    fun step hstep => (hframed step hstep).retains
  refine ⟨retains_after hretains, hframed, fun hpersist hsave octets => ?_⟩
  refine file_after_iff hretains (fun step hstep hwrites => ?_) octets
  obtain ⟨hmem, hlater, -⟩ := of_mem_steps h step hstep
  rcases (hframed step hstep).snapshot hwrites with ho | ⟨-, hp⟩
  · exact hsave (ho ▸ hmem)
  · rw [hlater.config, hpersist] at hp
    exact Bool.false_ne_true hp

/-- A closed session in the folder `/w`, which is not to be saved; its environment file is to be
made and its snapshot file is there. -/
def unsaving : Scene where
  disk := ⟨[([[0x77]], .folder), ([[0x77], [0x73]], .file [0x7B, 0x7D])], [[0x77]]⟩
  resolvers := []
  session :=
    ⟨{ Config.default with envFile := "n/e", snapshotFile := "s", persistSnapshot := false },
      ⟨[slash], [[0x77]]⟩, none, []⟩

/-- A session that is opened, given a value, left by an error and opened again keeps its snapshot
file, and makes its environment file. -/
theorem file_frame_unsaving :
    ((unsaving.after [.enter, .ask (.set (.text "key") (.int 1)), .exit true, .enter]).disk.node?
        [[0x77], [0x73]] = some (.file [0x7B, 0x7D])) ∧
      (unsaving.after [.enter, .ask (.set (.text "key") (.int 1)), .exit true, .enter]).disk.node?
        [[0x77], [0x6E], [0x65]] = some (.file [0x7B, 0x7D]) := by
  obtain ⟨-, -, hkept⟩ := file_frame unsaving
    [.enter, .ask (.set (.text "key") (.int 1)), .exit true, .enter] (by simp) (by decide +kernel)
  exact ⟨(hkept rfl (by simp) [0x7B, 0x7D]).2 (by decide +kernel), by decide +kernel⟩

end Scene

end Tiered
