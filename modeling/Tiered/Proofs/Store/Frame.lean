import Mathlib
import Tiered.Proofs.Files.Target
import Tiered.Proofs.Store.Arrival

/-!
# Frame — the file that an operation on the disk writes

Loading an environment and saving a snapshot take nothing away (`Disk.Retains`), and each writes at
most one file, which is at the target of its path (`Receives.target_of_writes`).  Writing means that
the file is new or has another content (`Disk.Writes`); folders may come on the way to it.
-/

namespace Tiered

open Files

namespace Files.Disk

variable {d d' d'' : Disk} {p : Path} {content : Text.Utf8.Octets} {loc : Location}

/-- Nothing is taken away: a folder is a folder still, and a file is a file. -/
structure Retains (d d' : Disk) : Prop extends Grows d d' where
  file : ∀ loc octets, d.node? loc = some (.file octets) →
    ∃ octets', d'.node? loc = some (.file octets')

theorem Retains.refl (d : Disk) : Retains d d := ⟨.refl d, fun _ octets h => ⟨octets, h⟩⟩

theorem Retains.trans (h : Retains d d') (h' : Retains d' d'') : Retains d d'' := by
  refine ⟨h.toGrows.trans h'.toGrows, fun loc octets hn => ?_⟩
  obtain ⟨between, hn'⟩ := h.file loc octets hn
  exact h'.file loc between hn'

/-- A file at the location is new or has another content. -/
def Writes (d d' : Disk) (loc : Location) : Prop :=
  ∃ octets, d'.node? loc = some (.file octets) ∧ d.node? loc ≠ some (.file octets)

/-- What is not written keeps its content, and no file comes to be there. -/
theorem file_iff_of_not_writes (hr : Retains d d') (hw : ¬ Writes d d' loc)
    (octets : Text.Utf8.Octets) :
    d'.node? loc = some (.file octets) ↔ d.node? loc = some (.file octets) := by
  have hback : ∀ octets, d'.node? loc = some (.file octets) →
      d.node? loc = some (.file octets) := by
    intro octets hn
    by_contra hne
    exact hw ⟨octets, hn, hne⟩
  refine ⟨hback octets, fun hn => ?_⟩
  obtain ⟨octets', hn'⟩ := hr.file loc octets hn
  exact hn'.trans ((hback octets' hn').symm.trans hn)

theorem Receives.retains (h : d.Receives d' p content) : Retains d d' := by
  refine ⟨h.grows, fun loc octets hn => ?_⟩
  rcases h.node loc with he | ⟨hnone, -⟩ | ⟨-, hfile, -⟩
  · exact ⟨octets, he.trans hn⟩
  · exact absurd (hn.symm.trans hnone) (by simp)
  · exact ⟨content, hfile⟩

/-- **The file that is written is at the target of its path.** -/
theorem Receives.target_of_writes (h : d.Receives d' p content) (hw : Writes d d' loc) :
    loc = d.target p := by
  obtain ⟨octets, hn', hn⟩ := hw
  rcases h.node loc with he | ⟨-, hfolder, -⟩ | ⟨-, -, hl⟩
  · exact absurd (he.symm.trans hn') hn
  · exact absurd (hn'.symm.trans hfolder) (by simp)
  · rw [← target_congr h.here]
    exact locate_target hl

end Files.Disk

namespace Store

/-- **What saving a snapshot leaves**, whatever it comes to. -/
theorem saveSnapshot_receives (path : Path) (es : Entries) (d : Disk) :
    ∃ content, d.Receives (saveSnapshot path es d).state path content := by
  cases h : (saveSnapshot path es d).result with
  | error failure => exact ⟨[], (saveSnapshot_failed h).1.receives⟩
  | ok kept =>
      obtain ⟨-, made, cs, hmake, -, hwrite⟩ := written_of_saved h
      have hway := Disk.makesWay_makeFolders d path.parent
      rw [hmake] at hway
      exact ⟨_, hway.receives_written hwrite⟩

end Store

end Tiered
