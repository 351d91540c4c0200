import Mathlib
import Tiered.Proofs.Files.Way
import Tiered.Proofs.Store.Durability

/-!
# Arrival — the file that loading an environment may make

Loading an environment changes a disk only where it finds nothing at its path and a missing file is
to be made.  Then folders come on the way to the path, and behind them the file that the path names
is made without environments.  Whatever it comes to, nothing else changes (`Disk.Receives`,
`loadEnvironment_receives`).
-/

namespace Tiered

open Files

namespace Files.Disk

variable {d d' : Disk} {p : Path} {content : Text.Utf8.Octets}

/-- Folders have come on the way to a path, and the file that the path names by then has a content;
nothing else has changed.  Both may be missing. -/
structure Receives (d d' : Disk) (p : Path) (content : Text.Utf8.Octets) : Prop where
  here : d'.here = d.here
  node : ∀ loc, d'.node? loc = d.node? loc ∨
    (d.node? loc = none ∧ d'.node? loc = some .folder ∧
      ∃ n, d'.locate (Path.parent^[n] p.parent).codes = .ok loc) ∨
    (d.isFolderAt loc = false ∧ d'.node? loc = some (.file content) ∧
      d'.locate p.codes = .ok loc)

/-- Every file keeps its content but the one that the path names. -/
theorem Receives.file (h : d.Receives d' p content) {loc : Location} {octets : Text.Utf8.Octets}
    (hn : d.node? loc = some (.file octets)) :
    d'.node? loc = some (.file octets) ∨ d'.locate p.codes = .ok loc := by
  rcases h.node loc with he | ⟨hnone, -⟩ | ⟨-, -, hl⟩
  · exact .inl (he.trans hn)
  · rw [hn] at hnone
    exact absurd hnone (by simp)
  · exact .inr hl

theorem Receives.grows (h : d.Receives d' p content) : d.Grows d' := by
  refine ⟨h.here, fun loc hf => ?_, fun loc ht => ?_⟩
  · rcases h.node loc with he | ⟨-, hfolder, -⟩ | ⟨hno, -⟩
    · rw [isFolderAt_iff] at hf ⊢
      exact he.trans hf
    · exact isFolderAt_iff.2 hfolder
    · rw [hf] at hno
      exact absurd hno (by simp)
  · rcases h.node loc with he | ⟨-, hfolder, -⟩ | ⟨-, hfile, -⟩
    · rwa [he]
    · rw [hfolder]
      rfl
    · rw [hfile]
      rfl

/-- Way that was made is received, with a file or without. -/
theorem MakesWay.receives (h : MakesWay d d' p.parent) : d.Receives d' p content := by
  refine ⟨h.here, fun loc => ?_⟩
  rcases h.node loc with he | ⟨hnone, hfolder⟩
  · exact .inl he
  · exact .inr (.inl ⟨hnone, hfolder, h.named loc hnone hfolder⟩)

/-- **A file that is written behind the way to it is received.** -/
theorem MakesWay.receives_written {made : Disk} (h : MakesWay d made p.parent)
    (hw : made.writeFile p.text content = .ok d') : d.Receives d' p content := by
  have hgrows := writeFile_grows hw
  obtain ⟨-, target, hwritable, rfl⟩ := writeFile_eq_ok_iff.1 hw
  obtain ⟨folder, name, rfl, hl, hfree⟩ := writable_eq_ok_iff.1 hwritable
  have hput := node?_put made (ne_root_of_not_folder hfree) (.file content)
  refine ⟨hgrows.here.trans h.here, fun loc => ?_⟩
  by_cases htarget : loc = folder ++ [name]
  -- the file itself
  · subst htarget
    refine .inr (.inr ⟨?_, node?_put_self hfree _, locate_put hl hfree _⟩)
    by_contra hfolder
    rw [Bool.not_eq_false] at hfolder
    rw [h.grows.folder _ hfolder] at hfree
    exact absurd hfree (by simp)
  · rw [hput, if_neg htarget]
    rcases h.node loc with he | ⟨hnone, hfolder⟩
    · exact .inl he
    · obtain ⟨n, hn⟩ := h.named loc hnone hfolder
      exact .inr (.inl ⟨hnone, hfolder, n, locate_grows hgrows hn⟩)

end Files.Disk

namespace Store

/-- What making an environment file leaves, whatever it comes to. -/
theorem createEnvironments_receives (path : Path) (d : Disk) :
    d.Receives (createEnvironments path d).state path (Text.Utf8.encode emptyObject) := by
  have hway := Disk.makesWay_makeFolders d path.parent
  rw [createEnvironments_eq]
  rcases hm : d.makeFolders path.parent with ⟨made, _ | fault⟩
  · rw [hm] at hway
    dsimp only
    cases hw : made.writeFile path.text (Text.Utf8.encode emptyObject) with
    | error fault => exact hway.receives
    | ok written => exact hway.receives_written hw
  · rw [hm] at hway
    exact hway.receives

/-- **Reading the named environments leaves the disk as it is, or makes a missing file.** -/
theorem readEnvironments_receives (path : Path) (createMissing : Bool) (d : Disk) :
    (readEnvironments path createMissing d).state = d ∨
      createMissing = true ∧ d.exists? path.text = .ok false ∧
        d.Receives (readEnvironments path createMissing d).state path
          (Text.Utf8.encode emptyObject) := by
  by_cases hmake : createMissing = true ∧ d.exists? path.text = .ok false
  · obtain ⟨rfl, he⟩ := hmake
    refine .inr ⟨rfl, he, ?_⟩
    rw [readEnvironments_eq, he]
    exact createEnvironments_receives path d
  · refine .inl ?_
    rw [readEnvironments_eq]
    rcases he : d.exists? path.text with fault | found
    · rfl
    cases found with
    | true => cases d.readFile path.text <;> rfl
    | false =>
        have hnot : createMissing = false := by simpa [he] using hmake
        subst hnot
        rfl

/-- **Loading an environment leaves the disk as it is, or makes a missing file.** -/
theorem loadEnvironment_receives (shownAs name : Text) (createMissing : Bool) (d : Disk) :
    (loadEnvironment shownAs (.text name) createMissing d).state = d ∨
      createMissing = true ∧ d.exists? (Path.ofText shownAs).text = .ok false ∧
        d.Receives (loadEnvironment shownAs (.text name) createMissing d).state
          (.ofText shownAs) (Text.Utf8.encode emptyObject) := by
  rw [loadEnvironment_state]
  exact readEnvironments_receives _ createMissing d

/-- **Loading an environment takes nothing away.** -/
theorem loadEnvironment_grows (shownAs name : Text) (createMissing : Bool) (d : Disk) :
    d.Grows (loadEnvironment shownAs (.text name) createMissing d).state := by
  rcases loadEnvironment_receives shownAs name createMissing d with hsame | ⟨-, -, hreceives⟩
  · rw [hsame]
    exact .refl d
  · exact hreceives.grows

end Store

end Tiered
