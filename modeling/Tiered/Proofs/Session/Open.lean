import Mathlib
import Tiered.Proofs.Session.Outcome
import Tiered.Proofs.Store.Loading

/-!
# Open — how opening a session fails

Opening reads the environment file, which it may make, and then the snapshot file.  It fails with a
failure to use one of them unless one of the two goes astray (`loading_failures`).
-/

namespace Tiered

open Files Store

namespace Scene

/-- The path of the environment file as it is read. -/
def environmentPath (s : Scene) : Path := .ofText s.session.envPath.text

/-- Opening goes astray: at the environment file, or behind it at the snapshot file. -/
def OpensAstray (s : Scene) : Prop :=
  (ReadsAstray s.environmentPath s.disk ∨
    CreatesAstray s.environmentPath s.session.config.createMissing s.disk) ∨
  ∃ environment, s.environmentOutcome.result = .ok environment ∧
    ReadsAstray s.session.snapshotPath s.environmentOutcome.state

/-- What opening fails by is what one of the two files fails by. -/
theorem enter_error_iff {s : Scene} {failure : Failure} :
    (enter s).result = .error failure ↔ s.environmentOutcome.result = .error failure ∨
      ∃ environment, s.environmentOutcome.result = .ok environment ∧
        s.snapshotOutcome.result = .error failure := by
  rw [enter_eq]
  cases s.environmentOutcome.result with
  | error failure' => simp
  | ok environment => cases s.snapshotOutcome.result <;> simp

theorem straysWhen_environmentOutcome (s : Scene) :
    StraysWhen environmentFile s.environmentPath s.environmentOutcome.result
      (ReadsAstray s.environmentPath s.disk ∨
        CreatesAstray s.environmentPath s.session.config.createMissing s.disk) :=
  straysWhen_loadEnvironment _ _ _ _

theorem straysWhen_snapshotOutcome (s : Scene) :
    StraysWhen snapshotFile s.session.snapshotPath s.snapshotOutcome.result
      (ReadsAstray s.session.snapshotPath s.environmentOutcome.state) :=
  straysWhen_loadSnapshot _ _

/-- Opening fails by a stray failure exactly where it goes astray. -/
theorem enter_stray_iff {s : Scene} :
    (∃ failure, (enter s).result = .error failure ∧ failure.Stray) ↔ s.OpensAstray := by
  rw [OpensAstray, ← (straysWhen_environmentOutcome s).stray,
    ← (straysWhen_snapshotOutcome s).stray]
  simp only [enter_error_iff]
  constructor
  · rintro ⟨failure, he | ⟨environment, he, hl⟩, hs⟩
    · exact .inl ⟨failure, he, hs⟩
    · exact .inr ⟨environment, he, failure, hl, hs⟩
  · rintro (⟨failure, he, hs⟩ | ⟨environment, he, failure, hl, hs⟩)
    · exact ⟨failure, .inl he, hs⟩
    · exact ⟨failure, .inr ⟨environment, he, hl⟩, hs⟩

/-- What else opening fails by is to use one of the two files, at its path. -/
theorem enter_told {s : Scene} {failure : Failure} (h : (enter s).result = .error failure) :
    ((∃ reason, failure = .environmentFile s.environmentPath reason) ∨
      ∃ reason, failure = .snapshotFile s.session.snapshotPath reason) ∨ failure.Stray := by
  rcases enter_error_iff.1 h with he | ⟨environment, -, hl⟩
  · exact ((straysWhen_environmentOutcome s).told failure he).imp_left .inl
  · exact ((straysWhen_snapshotOutcome s).told failure hl).imp_left .inr

theorem enter_told_iff {s : Scene} :
    (∀ failure, (enter s).result = .error failure →
      (∃ reason, failure = .environmentFile s.environmentPath reason) ∨
        ∃ reason, failure = .snapshotFile s.session.snapshotPath reason) ↔ ¬ s.OpensAstray := by
  rw [← enter_stray_iff]
  constructor
  · rintro htold ⟨failure, hr, hs⟩
    rcases htold failure hr with ⟨reason, rfl⟩ | ⟨reason, rfl⟩
    · exact not_stray_failure known_environmentFile _ reason hs
    · exact not_stray_failure known_snapshotFile _ reason hs
  · exact fun hn failure hr => (enter_told hr).resolve_right fun hs => hn ⟨failure, hr, hs⟩

/-- **When reading the two files fails only as it should.**  Reading and loading environments fail
with nothing but a failure to use the environment file at its path, loading a snapshot with nothing
but one to use the snapshot file at its path, and opening a session with nothing but these two,
exactly where no name in a path is too long to ask for, no file that is read is garbled, and no
environment file is to be made at a path that no file can have. -/
theorem loading_failures (shownAs name : Text) (createMissing : Bool) (path : Path) (d : Disk)
    (s : Scene) :
    ((∀ failure, (readEnvironments (.ofText shownAs) createMissing d).result = .error failure →
        ∃ reason, failure = .environmentFile (.ofText shownAs) reason) ↔
      ¬ (ReadsAstray (.ofText shownAs) d ∨ CreatesAstray (.ofText shownAs) createMissing d)) ∧
    ((∀ failure, (loadEnvironment shownAs (.text name) createMissing d).result = .error failure →
        ∃ reason, failure = .environmentFile (.ofText shownAs) reason) ↔
      ¬ (ReadsAstray (.ofText shownAs) d ∨ CreatesAstray (.ofText shownAs) createMissing d)) ∧
    ((∀ failure, (loadSnapshot path d).result = .error failure →
        ∃ reason, failure = .snapshotFile path reason) ↔ ¬ ReadsAstray path d) ∧
    ((∀ failure, (enter s).result = .error failure →
        (∃ reason, failure = .environmentFile s.environmentPath reason) ∨
          ∃ reason, failure = .snapshotFile s.session.snapshotPath reason) ↔
      ¬ s.OpensAstray) := by
  have hread := straysWhen_readEnvironments (Path.wellFormed_ofCodes shownAs.codes) createMissing d
  have hload := straysWhen_loadEnvironment shownAs name createMissing d
  exact ⟨hread.told_iff known_environmentFile, hload.told_iff known_environmentFile,
    (straysWhen_loadSnapshot path d).told_iff known_snapshotFile, enter_told_iff⟩

/-- An octet that begins no character is no failure to use the environment file or the snapshot
file. -/
theorem loading_failures_octet :
    (loadEnvironment "e" (.text "dev") true ⟨[([[0x65]], .file [0xFF])], []⟩).result =
      .error (.encoding ⟨0, 1, 0xFF, .badStart⟩) ∧
    (loadSnapshot (.ofText "e") ⟨[([[0x65]], .file [0xFF])], []⟩).result =
      .error (.encoding ⟨0, 1, 0xFF, .badStart⟩) :=
  ⟨rfl, rfl⟩

end Scene

end Tiered
