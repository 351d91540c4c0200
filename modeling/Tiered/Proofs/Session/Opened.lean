import Mathlib
import Tiered.Proofs.Session.Durability
import Tiered.Proofs.Session.Open
import Tiered.Proofs.Store.Overwrite

/-!
# Opened — what opening leaves

An opening that works gives the session a new resolver and a new reset point (`enter_installs`).
Whether it works or not, of the files it changes at most the environment file that it makes, which
replaces another file only at a path with double points behind a folder that is missing
(`environment_files`).
-/

namespace Tiered

open Files Store

namespace Scene

variable {s : Scene}

/-- An opening that works installs the snapshot and the environment as a new resolver. -/
theorem enter_installs (h : (enter s).result = .ok ()) :
    ∃ environment saved, s.environmentOutcome.result = .ok environment ∧
      s.snapshotOutcome.result = .ok saved ∧
      (enter s).state = ⟨s.snapshotOutcome.state, s.resolvers ++ [⟨saved, environment⟩],
        { s.session with saved := saved, current := some s.resolvers.length }⟩ := by
  rw [enter_eq] at h ⊢
  cases he : s.environmentOutcome.result with
  | error failure => simp [he] at h
  | ok environment =>
      cases hs : s.snapshotOutcome.result with
      | error failure => simp [he, hs] at h
      | ok saved => exact ⟨environment, saved, rfl, rfl, rfl⟩

/-- **What reading environments does to files.**  Reading the named environments, loading one of
them and opening a session, whatever they come to, change of the files at most the one that is made
when nothing is found at the path of the environment file and a missing one is wanted.  A file that
is new holds no environments, and the path leads to it.  Every file keeps its content exactly where
none is replaced; and none is where the folder of the path is there, or where the disk is a tree and
the path has no double points. -/
theorem environment_files (shownAs name : Text) (createMissing : Bool) (d : Disk) (s : Scene) :
    MakesFile (.ofText shownAs) createMissing d
        (readEnvironments (.ofText shownAs) createMissing d).state ∧
      MakesFile (.ofText shownAs) createMissing d
        (loadEnvironment shownAs (.text name) createMissing d).state ∧
      MakesFile s.environmentPath s.session.config.createMissing s.disk (enter s).state.disk ∧
      ∀ (shown : Text) (wanted : Bool) (before after : Disk),
        MakesFile (.ofText shown) wanted before after →
        (∀ loc octets, after.node? loc = some (.file octets) →
          before.node? loc = some (.file octets) ∨ octets = Text.Utf8.encode emptyObject ∧
            after.locate (Path.ofText shown).codes = .ok loc) ∧
        (before.KeepsFiles after ↔ ¬ Overwrites (.ofText shown) wanted before) ∧
        (before.isFolder? (Path.ofText shown).parent.text = .ok true → before.KeepsFiles after) ∧
        (before.Tree → [point, point] ∉ (Path.ofText shown).names → before.KeepsFiles after) := by
  refine ⟨makesFile_readEnvironments _ _ _, makesFile_loadEnvironment _ _ _ _, ?_,
    fun shown wanted before after h => ?_⟩
  · rw [disk_enter]
    exact makesFile_loadEnvironment _ _ _ _
  · have hwell := Path.wellFormed_ofCodes shown.codes
    refine ⟨fun loc octets => h.file, h.keepsFiles_iff, fun hf => ?_, fun ht hup => ?_⟩
    · exact h.keepsFiles_iff.2 (not_overwrites_of_folder hwell hf)
    · exact h.keepsFiles_iff.2 (not_overwrites_of_direct ht ⟨hwell, hup⟩)

/-- A folder `/w` with an environment file `a`. -/
def withEnvironment : Disk :=
  ⟨[([[0x77]], .folder), ([[0x77], [0x61]], .file (Text.Utf8.encode
    "\x7b\"dev\": \x7b\"k\": 1\x7d\x7d".toList))], [[0x77]]⟩

/-- Where the folder on the way is missing, reading the environments of the file replaces it. -/
theorem environment_files_replaced :
    withEnvironment.node? [[0x77], [0x61]] ≠ some (.file (Text.Utf8.encode emptyObject)) ∧
      (readEnvironments (.ofText "n/../a") true withEnvironment).state.node? [[0x77], [0x61]] =
        some (.file (Text.Utf8.encode emptyObject)) := by
  decide +kernel

end Scene

end Tiered
