import Mathlib
import Tiered.Proofs.Keeps
import Tiered.Store.Environment
import Tiered.Store.Snapshot

/-!
# Reports — what loading and saving tell of

Loading an environment tells that its file was made and that it was loaded; loading a snapshot
tells that it was loaded, and saving one what it leaves out and that it was saved.  Nothing else is
told, whatever they come to.
-/

open Tiered.Action

namespace Tiered.Store

open Files

variable {topics : List Log.Topic}

theorem tells_ask {α : Type} (question : Disk → Except Fault α) : (ask question).Tells topics := by
  intro d
  rw [ask]
  split <;> simp

theorem tells_makeFolders (path : Path) : (makeFolders path).Tells topics := by
  intro d
  rw [makeFolders]
  split <;> simp

theorem tells_writeFile (path : Path) (content : List Char) :
    (writeFile path content).Tells topics := by
  intro d
  rw [writeFile]
  split <;> simp

theorem tells_readText (path : Path) : (readText path).Tells topics :=
  (tells_ask _).bind fun _ => (reports_lift _).bind fun _ => reports_pure _

theorem tells_access {α : Type} {a : Action Disk α} (h : a.Tells topics) (f : ObjectFile)
    (path : Path) : (f.access path a).Tells topics := by
  intro d
  simp only [ObjectFile.access]
  split <;> exact h d

theorem tells_createEnvironments (path : Path) :
    (createEnvironments path).Tells [.environmentCreated] :=
  (tells_access ((tells_makeFolders _).bind fun _ => tells_writeFile _ _) _ _).bind fun _ =>
    reports_emit (by simp [About, Log.Event.environmentCreated])

theorem tells_readEnvironments (path : Path) (createMissing : Bool) :
    (readEnvironments path createMissing).Tells [.environmentCreated] := by
  refine (tells_ask _).bind fun found => ?_
  split_ifs
  · exact (tells_access (tells_readText path) _ _).bind fun _ => reports_lift _
  · exact (tells_createEnvironments path).bind fun _ => reports_pure _
  · exact (reports_pure ()).bind fun _ => reports_pure _

/-- **Loading an environment tells of its file.** -/
theorem tells_loadEnvironment (shownAs : Text) (name : Value) (createMissing : Bool) :
    (loadEnvironment shownAs name createMissing).Tells
      [.environmentCreated, .environmentLoaded] := by
  have hread := tells_readEnvironments (Path.ofText shownAs) createMissing
  refine (hread.mono (List.cons_subset_cons _ (List.nil_subset _))).bind fun environments =>
    (reports_lift _).bind fun _ => ?_
  split
  · exact (reports_emit (by simp [About, Log.Event.environmentLoaded])).bind
      fun _ => reports_pure _
  · exact (reports_emit (by simp [About, Log.Event.environmentLoaded])).bind
      fun _ => reports_pure _
  · exact reports_fail _

/-- **Loading a snapshot tells that it was loaded.** -/
theorem tells_loadSnapshot (path : Path) : (loadSnapshot path).Tells [.snapshotLoaded] := by
  refine (tells_ask _).bind fun found => ?_
  split_ifs
  · refine (tells_access (tells_readText path) _ _).bind fun cs => ?_
    split_ifs
    · exact reports_pure _
    · exact (reports_lift _).bind fun _ =>
        (reports_emit (by simp [About, Log.Event.snapshotLoaded])).bind
          fun _ => reports_pure _
  · exact reports_pure _

/-- **Saving a snapshot tells what it left out and that it was saved.** -/
theorem tells_saveSnapshot (path : Path) (es : Entries) :
    (saveSnapshot path es).Tells [.valueSkipped, .snapshotSaved] := by
  have hkeep : (keepSerializable es : Action Disk Entries).Tells [.valueSkipped, .snapshotSaved] :=
    (reports_emitAll (List.forall_mem_map.2 fun _ _ =>
      by simp [About, Log.Event.valueSkipped])).bind fun _ => reports_pure _
  refine hkeep.bind fun kept => (tells_access ?_ _ _).bind fun _ =>
    (reports_emit (by simp [About, Log.Event.snapshotSaved])).bind fun _ => reports_pure _
  exact (tells_makeFolders _).bind fun _ => (reports_lift _).bind fun _ => tells_writeFile _ _

end Tiered.Store
