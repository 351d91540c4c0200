import Mathlib
import Tiered.Proofs.Files.Way
import Tiered.Proofs.Store.RoundTrip
import Tiered.Proofs.Store.Stray

/-!
# Saving — how saving a snapshot fails

Saving fails with a failure to use the snapshot file where the disk refuses an access, and with
another failure where the path is one that no file can have or what is kept has no text
(`straysWhen_saveSnapshot`).  It reports what it leaves out and what it wrote, and never that it
failed (`saveFailures_saveSnapshot`).  Where it fails, it has written nothing
(`saveSnapshot_failed`).
-/

namespace Tiered

open Files

/-- The disk refuses to make the folders above a path. -/
def Files.Disk.RefusesFolder (d : Disk) (p : Path) : Prop :=
  ∃ made fault, d.makeFolders p.parent = (made, some fault) ∧ fault.Refusal

theorem Files.Disk.refusesFolder_iff_of_fault {d made : Disk} {p : Path} {fault : Fault}
    (h : d.makeFolders p.parent = (made, some fault)) : d.RefusesFolder p ↔ fault.Refusal := by
  constructor
  · rintro ⟨made', fault', hm, hr⟩
    rw [h] at hm
    obtain ⟨-, rfl⟩ : made = made' ∧ fault = fault' := by simpa using hm
    exact hr
  · exact fun hr => ⟨made, fault, h, hr⟩

theorem Files.Disk.not_refusesFolder_of_made {d made : Disk} {p : Path}
    (h : d.makeFolders p.parent = (made, none)) : ¬ d.RefusesFolder p := by
  rintro ⟨made', fault, hm, -⟩
  simp [h] at hm

namespace Store

/-- No file can have the path, or what is kept of the entries has no text: a key or a whole number
is in the way. -/
def Unsavable (path : Path) (es : Entries) : Prop :=
  ¬ Nameable path.text ∨ ∃ e ∈ es.keep, ¬ (Json.Keyable e.1 ∧ e.2.Spellable)

theorem snapshotText_error {es : Entries} {failure : Failure}
    (h : snapshotText es = .error failure) : failure.Stray := by
  simp only [snapshotText] at h
  split at h
  · exact absurd h (by simp)
  · next refusal _ => exact Except.error.inj h ▸ stray_ofRefusal refusal

theorem unsavable_of_snapshotText_error {es : Entries} {failure : Failure}
    (h : snapshotText es.keep = .error failure) (path : Path) : Unsavable path es := by
  refine .inr ?_
  by_contra hnone
  obtain ⟨cs, hcs⟩ := exists_snapshotText_iff.2 fun e he => not_not.1 fun hne => hnone ⟨e, he, hne⟩
  simp [h] at hcs

theorem unsavable_iff_of_snapshotText {es : Entries} {cs : List Char}
    (h : snapshotText es.keep = .ok cs) (path : Path) :
    Unsavable path es ↔ ¬ Nameable path.text :=
  or_iff_left fun ⟨e, he, hne⟩ => hne (exists_snapshotText_iff.1 ⟨cs, h⟩ e he)

/-- **Saving strays exactly where the disk lets the folders be made and the path or what is kept is
in the way.** -/
theorem straysWhen_saveSnapshot {path : Path} (hp : path.WellFormed) (es : Entries) (d : Disk) :
    StraysWhen snapshotFile path (saveSnapshot path es d).result
      (¬ d.RefusesFolder path ∧ Unsavable path es) := by
  have hf := known_snapshotFile
  rw [saveSnapshot_eq]
  rcases hm : d.makeFolders path.parent with ⟨made, _ | fault⟩
  · have href := Disk.not_refusesFolder_of_made hm
    cases ht : snapshotText es.keep with
    | error failure =>
        exact straysWhen_stray (snapshotText_error ht)
          ⟨href, unsavable_of_snapshotText_error ht path⟩
    | ok cs =>
        have hun := unsavable_iff_of_snapshotText ht path
        dsimp only
        cases hw : made.writeFile path.text (Text.Utf8.encode cs) with
        | error fault =>
            refine straysWhen_failureOf hf ?_
            rw [and_iff_right href, hun, Disk.writeFile_fault hw]
        | ok written =>
            refine straysWhen_ok _ fun h => hun.1 h.2 (Disk.writeFile_eq_ok_iff.1 hw).1
  · refine straysWhen_failureOf hf ?_
    rw [Disk.refusesFolder_iff_of_fault hm]
    refine and_iff_left_of_imp fun hr => .inl fun hn => hr ?_
    exact (Disk.makeFolders_fault hp.parent hm).2 (Path.nameable_parent hp hn)

/-- **Saving that fails has written nothing.**  Folders may have come on the way to the file, and
only what is left out was reported. -/
theorem saveSnapshot_failed {path : Path} {es : Entries} {d : Disk} {failure : Failure}
    (h : (saveSnapshot path es d).result = .error failure) :
    d.MakesWay (saveSnapshot path es d).state path.parent ∧
      (saveSnapshot path es d).events = skipReports es := by
  have hway := Disk.makesWay_makeFolders d path.parent
  rw [saveSnapshot_eq] at h ⊢
  rcases hm : d.makeFolders path.parent with ⟨made, _ | fault⟩
  · rw [hm] at hway
    cases ht : snapshotText es.keep with
    | error failure => exact ⟨hway, rfl⟩
    | ok cs =>
        cases hw : made.writeFile path.text (Text.Utf8.encode cs) with
        | error fault => simpa only [hw, and_true] using hway
        | ok written => simp [hm, ht, hw] at h
  · rw [hm] at hway
    exact ⟨hway, rfl⟩

/-! ### Reports -/

/-- How often a row of events says that a snapshot could not be saved. -/
def saveFailures (events : List Log.Event) : Nat :=
  events.countP fun e => e.topic = .snapshotSaveFailed

theorem saveFailures_skipReports (es : Entries) : saveFailures (skipReports es) = 0 :=
  List.countP_eq_zero.2 (List.forall_mem_map.2 fun _ _ => by simp [Log.Event.valueSkipped])

/-- Saving itself does not report that it failed. -/
theorem saveFailures_saveSnapshot (path : Path) (es : Entries) (d : Disk) :
    saveFailures (saveSnapshot path es d).events = 0 := by
  have hskip := saveFailures_skipReports es
  rw [saveSnapshot_eq]
  rcases d.makeFolders path.parent with ⟨made, _ | fault⟩
  · cases snapshotText es.keep with
    | error failure => exact hskip
    | ok cs =>
        dsimp only
        cases made.writeFile path.text (Text.Utf8.encode cs) with
        | error fault => exact hskip
        | ok written =>
            dsimp only
            rw [saveFailures, List.countP_append]
            exact Nat.add_eq_zero_iff.2 ⟨hskip, rfl⟩
  · exact hskip

end Store

end Tiered
