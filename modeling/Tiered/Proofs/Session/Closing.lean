import Mathlib
import Tiered.Proofs.Session.Frame
import Tiered.Proofs.Session.Lifecycle
import Tiered.Proofs.Session.Unsaved
import Tiered.Proofs.Store.Durability

/-!
# Closing — what the end of a session says about its snapshot

The end of a session is told with the word whether the session was persisted.  That word is what the
configuration asks for, and the save comes before it: it is told if it succeeds, and then the file
holds what is kept of the overlay (`persist_of_canSave`); if it is not asked for or fails, it is not
told, and no file is written (`persist_of_not`).  So the word is true exactly unless a save is asked
for that fails (`closing_told`).
-/

namespace Tiered

open Files Store

theorem Log.Event.sessionClosed_inj {entries entries' : Nat} {persisted persisted' : Bool} :
    Log.Event.sessionClosed entries persisted = .sessionClosed entries' persisted' ↔
      entries = entries' ∧ persisted = persisted' := by
  simp [Log.Event.sessionClosed, Log.Event.count]

namespace Scene

variable {s : Scene} {id : Nat}

/-- It is told that a snapshot was saved at a path. -/
def ToldSaved (path : Path) (events : List Log.Event) : Prop :=
  ∃ entries, .snapshotSaved path.text entries ∈ events

theorem not_toldSaved {path : Path} {events : List Log.Event} (h : NothingSaved events) :
    ¬ ToldSaved path events := by
  rintro ⟨entries, hmem⟩
  exact h _ hmem rfl

/-- The overlay of an open session can be saved: a file can be written at the snapshot's path, and
every entry that is kept has a text. -/
structure CanSave (s : Scene) : Prop where
  admits : s.disk.Admits s.session.snapshotPath
  texts : ∀ id, s.session.current = some id → ∀ e ∈ (s.resolver id).overlay.keep,
    Json.Keyable e.1 ∧ e.2.Spellable

theorem canSave_iff (h : s.session.current = some id) :
    s.CanSave ↔ ∃ kept, (save s).result = .ok kept := by
  rw [save_result s h, exists_saved_iff]
  constructor
  · exact fun hs => ⟨hs.admits, hs.texts id h⟩
  · rintro ⟨hadmits, htexts⟩
    refine ⟨hadmits, fun id' h' => ?_⟩
    obtain rfl := Option.some.inj (h'.symm.trans h)
    exact htexts

/-- The snapshot file holds the text of what is kept of the overlay that the session had. -/
def SnapshotWritten (s : Scene) (d : Disk) : Prop :=
  ∀ id, s.session.current = some id → ∃ cs, snapshotText (s.resolver id).overlay.keep = .ok cs ∧
    d.readFile s.session.snapshotPath.text = .ok (Text.Utf8.encode cs)

/-! ### The save at the end -/

/-- **A save that is asked for and is possible is told, and the file is written.** -/
theorem persist_of_canSave (h : s.session.current = some id)
    (hp : s.session.config.persistSnapshot = true) (hs : s.CanSave) :
    ToldSaved s.session.snapshotPath (persist s).events ∧
      s.SnapshotWritten (persist s).state.disk := by
  obtain ⟨kept, hkept⟩ := (canSave_iff h).1 hs
  have hresult : (saveSnapshot s.session.snapshotPath (s.resolver id).overlay s.disk).result =
      .ok kept := (save_result s h).symm.trans hkept
  rw [persist, if_pos hp, saveOnly_eq, save_of_open s h]
  simp only [hresult]
  refine ⟨⟨(s.resolver id).overlay.keep.length, ?_⟩, fun id' h' => ?_⟩
  · rw [events_of_saved hresult]
    exact List.mem_append_right _ (List.mem_singleton.2 rfl)
  · obtain rfl := Option.some.inj (h'.symm.trans h)
    obtain ⟨-, made, cs, -, htext, hwrite⟩ := written_of_saved hresult
    exact ⟨cs, htext, Disk.readFile_written hwrite⟩

/-- **Where no save is asked for, or it fails, none is told and no file is written.** -/
theorem persist_of_not (h : s.session.current = some id)
    (hn : ¬ (s.session.config.persistSnapshot = true ∧ s.CanSave)) :
    NothingSaved (persist s).events ∧
      s.disk.MakesWay (persist s).state.disk s.session.snapshotPath.parent := by
  by_cases hp : s.session.config.persistSnapshot = true
  · cases hr : (save s).result with
    | ok kept => exact absurd ⟨hp, (canSave_iff h).2 ⟨kept, hr⟩⟩ hn
    | error failure =>
        obtain ⟨-, hway, hnothing⟩ := save_failed copies_ok h hr
        rw [persist, if_pos hp, saveOnly_eq]
        exact ⟨hnothing, hway⟩
  · rw [persist, if_neg hp]
    exact ⟨List.forall_mem_nil _, .refl _ _⟩

/-- The save at the end tells of no other end. -/
theorem closed_not_mem_persist (s : Scene) (entries : Nat) (persisted : Bool) :
    .sessionClosed entries persisted ∉ (persist s).events := by
  intro hmem
  have habout := tells_persist s _ hmem
  simp [Action.About, Log.Event.sessionClosed] at habout

end Scene

/-! ### One step -/

namespace Operation

variable {s : Scene} {o : Operation} {id : Nat}

/-- Closing an open session tells what the save tells, then the end, and then at most that the save
failed. -/
theorem events_of_closes (h : s.session.current = some id) (hc : o.closes = true) :
    ∃ behind, (o.run s).events = (Scene.persist s).events ++
        .sessionClosed (s.resolver id).overlay.length s.session.config.persistSnapshot :: behind ∧
      ∀ e ∈ behind, e.topic = .snapshotSaveFailed := by
  have hclose : (Scene.close s).events = (Scene.persist s).events ++
      [.sessionClosed (s.resolver id).overlay.length s.session.config.persistSnapshot] := by
    rw [Scene.close_of_open s h]
  cases o with
  | close => exact ⟨[], by rw [run, Action.bind_pure_apply]; exact hclose, by simp⟩
  | exit failing =>
      rw [run, Action.bind_pure_apply]
      cases failing with
      | false => exact ⟨[], hclose, by simp⟩
      | true =>
          have hexit : Scene.exit true s = Scene.closeOnError s := rfl
          rw [hexit, Scene.closeOnError_eq]
          split
          · exact ⟨[], hclose, by simp⟩
          · next path reason _ =>
            refine ⟨[.snapshotSaveFailed path.text (Failure.snapshotFile path reason).message],
              ?_, by simp [Log.Event.snapshotSaveFailed]⟩
            rw [hclose, List.append_assoc, List.singleton_append]
          · exact ⟨[], hclose, by simp⟩
  | _ => exact absurd hc (by simp [closes])

/-- Closing an open session leaves the disk that the save left. -/
theorem disk_of_closes (h : s.session.current = some id) (hc : o.closes = true) :
    (o.run s).state.disk = (Scene.persist s).state.disk := by
  have hclose : (Scene.close s).state.disk = (Scene.persist s).state.disk := by
    rw [Scene.close_of_open s h]
    rfl
  cases o with
  | close => rw [run, Action.bind_pure_state, hclose]
  | exit failing => rw [run, Action.bind_pure_state, Scene.disk_exit, hclose]
  | _ => exact absurd hc (by simp [closes])

end Operation

namespace Step

/-- What there is to a step that tells the end of a session, with the given words and behind the
given events. -/
structure Closing (step : Step) (told : List Log.Event) (entries : Nat) (persisted : Bool) :
    Prop where
  /-- The session was open and is closed by the step. -/
  ends : step.ends = true
  /-- The entries that are counted are those of the overlay. -/
  counted : ∀ id, step.before.session.current = some id →
    entries = (step.before.resolver id).overlay.length
  /-- The session is said to be persisted if the configuration asks for it. -/
  asked : persisted = step.before.session.config.persistSnapshot
  /-- A save was told exactly if it was asked for and was possible. -/
  saved : Scene.ToldSaved step.before.session.snapshotPath told ↔
    persisted = true ∧ step.before.CanSave
  /-- The file was written if a save was told. -/
  written : Scene.ToldSaved step.before.session.snapshotPath told →
    step.before.SnapshotWritten step.outcome.state.disk
  /-- No file was written if none was told. -/
  unwritten : ¬ Scene.ToldSaved step.before.session.snapshotPath told →
    step.before.disk.MakesWay step.outcome.state.disk step.before.session.snapshotPath.parent

/-- **What an operation that tells the end of a session has done.** -/
theorem closing_run {o : Operation} {s : Scene} {told behind : List Log.Event} {entries : Nat}
    {persisted : Bool}
    (h : (o.run s).events = told ++ .sessionClosed entries persisted :: behind) :
    Closing ⟨o, s, o.run s⟩ told entries persisted := by
  have hmem : .sessionClosed entries persisted ∈ (o.run s).events := by simp [h]
  have hc : o.closes = true := by
    by_contra hc
    have habout := o.tells_run (Bool.not_eq_true _ ▸ hc) s _ hmem
    simp [Action.About, Log.Event.sessionClosed] at habout
  obtain ⟨id, hid⟩ : ∃ id, s.session.current = some id := by
    by_contra hid
    rw [o.run_idle (Option.eq_none_iff_forall_ne_some.2 fun id h => hid ⟨id, h⟩) hc] at hmem
    exact absurd hmem List.not_mem_nil
  -- the end is told once, so the events in front of it are those of the save
  obtain ⟨after, hevents, hafter⟩ := Operation.events_of_closes hid hc
  have hbehind : .sessionClosed entries persisted ∉ after := fun hmem =>
    absurd (hafter _ hmem) (by simp [Log.Event.sessionClosed])
  obtain ⟨rfl, hclosed, -⟩ := (List.append_cons_inj_of_notMem
    (Scene.closed_not_mem_persist s entries persisted) hbehind).1 (hevents.symm.trans h)
  obtain ⟨rfl, rfl⟩ := Log.Event.sessionClosed_inj.1 hclosed
  have hdisk := Operation.disk_of_closes hid hc
  have hsaved := Scene.persist_of_canSave hid
  have hunsaved := Scene.persist_of_not hid
  have htold : Scene.ToldSaved s.session.snapshotPath (Scene.persist s).events ↔
      s.session.config.persistSnapshot = true ∧ s.CanSave := by
    refine ⟨fun ht => ?_, fun hs => (hsaved hs.1 hs.2).1⟩
    by_contra hn
    exact Scene.not_toldSaved (hunsaved hn).1 ht
  refine ⟨?_, fun id' h' => ?_, rfl, htold, fun ht => ?_, fun hn => ?_⟩
  · simp [ends, hc, Session.isOpen, hid]
  · obtain rfl := Option.some.inj (h'.symm.trans hid)
    rfl
  · obtain ⟨hp, hs⟩ := htold.1 ht
    rw [hdisk]
    exact (hsaved hp hs).2
  · rw [hdisk]
    exact (hunsaved (htold.not.1 hn)).2

end Step

/-! ### A run -/

namespace Scene

/-- **What the end of a session says about its snapshot.**  In a run of operations, whatever fails
in it, the end of a session is told by a step that closes it while it is open.  The word whether it
was persisted is what the configuration asks for, and before it a save is told exactly if that was
asked for and possible; then the snapshot file was written by the step, and otherwise no file was.
So the word is true exactly unless a save was asked for and was not possible. -/
theorem closing_told (s : Scene) (os : List Operation) : ∀ step ∈ s.steps os,
    ∀ told entries persisted behind,
      step.outcome.events = told ++ .sessionClosed entries persisted :: behind →
        step.Closing told entries persisted ∧
          ((persisted = true ↔ ToldSaved step.before.session.snapshotPath told) ↔
            (persisted = true → step.before.CanSave)) := by
  refine forall_mem_steps (fun o s told entries persisted behind h => ?_) s os
  have hclosing := Step.closing_run h
  refine ⟨hclosing, ?_⟩
  rw [hclosing.saved]
  tauto

/-- A session that can be saved is told to be persisted behind its save, and its file is written. -/
theorem closing_told_single :
    ∃ told behind,
      (single [] "s" (.int 1)).log [.close] = told ++ .sessionClosed 1 true :: behind ∧
      ToldSaved (single [] "s" (.int 1)).session.snapshotPath told ∧
      (single [] "s" (.int 1)).SnapshotWritten ((single [] "s" (.int 1)).after [.close]).disk := by
  have hopen : (single [] "s" (.int 1)).session.current = some 0 := rfl
  have hsave : (single [] "s" (.int 1)).CanSave := by
    refine ⟨by decide +kernel, fun id hid => ?_⟩
    obtain rfl := Option.some.inj hid
    simp [single, resolver, Entries.keep, Value.serializable, Json.Keyable, Value.Spellable,
      Number.Decimal.digits_of_lt_ten, Number.Decimal.maxDigits]
  obtain ⟨behind, hevents, -⟩ := Operation.events_of_closes (o := .close) hopen rfl
  obtain ⟨hclosing, -⟩ := closing_told (single [] "s" (.int 1)) [.close] _
    (List.mem_singleton.2 rfl) _ _ _ _ hevents
  have htold := hclosing.saved.2 ⟨rfl, hsave⟩
  exact ⟨_, behind, (List.append_nil _).trans hevents, htold, hclosing.written htold⟩

/-- Where a file stands in place of the snapshot's folder, the session is said to be persisted, and
nothing else is told. -/
theorem closed_blocked : blocked.log [.close] = [.sessionClosed 1 true] := by
  have hmake : blocked.disk.makeFolders blocked.session.snapshotPath.parent =
      (blocked.disk, some (.refused .exists ⟨[slash, 0x77, slash, 0x62]⟩)) := by
    rw [Disk.makeFolders]
    rfl
  have hopen : blocked.session.current = some 0 := rfl
  have hpersist : persist blocked = saveOnly blocked := if_pos rfl
  have hevents : (persist blocked).events = [] := by
    rw [hpersist, saveOnly_eq, save_events blocked hopen, saveSnapshot_eq, hmake]
    rfl
  rw [log_cons, Operation.run, Action.bind_pure_apply, close_of_open blocked hopen, hevents]
  rfl

end Scene

end Tiered
