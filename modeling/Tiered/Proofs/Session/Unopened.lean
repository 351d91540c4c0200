import Mathlib
import Tiered.Proofs.Result
import Tiered.Proofs.Session.Exit
import Tiered.Proofs.Session.Open
import Tiered.Proofs.Store.Reports
import Tiered.Proofs.Store.Arrival

/-!
# Unopened — what a failed opening leaves

Opening gives the session its new resolver behind the last step that can fail, but its new reset
point one step earlier: the overlay is a copy of it, and copying can fail.  An opening that fails
leaves the resolvers as they were, and of the files at most an environment file is new.  The reset
point stays unless it is the copy that fails (`enter_failed`); then it is what was loaded, which can
be told by resetting (`enter_failed_deep`).
-/

namespace Tiered

open Files Store

namespace Scene

variable {copy : Entries → Except Failure Entries} {s : Scene} {failure : Failure}

/-- An opening that fails comes as far as the disk, or to the copy of what it loaded. -/
theorem enter_failed_state (h : (enterWith copy s).result = .error failure) :
    (enterWith copy s).state = { s with disk := s.environmentOutcome.state } ∨
      ∃ saved, s.snapshotOutcome.result = .ok saved ∧ copy saved = .error failure ∧
        (enterWith copy s).state = { s with
          disk := s.environmentOutcome.state, session := { s.session with saved := saved } } := by
  have hdisk : s.snapshotOutcome.state = s.environmentOutcome.state :=
    loadSnapshot_state _ _
  rw [enterWith_eq, hdisk] at h ⊢
  cases he : s.environmentOutcome.result with
  | error refusal => exact .inl rfl
  | ok environment =>
      rw [he] at h
      cases hl : s.snapshotOutcome.result with
      | error refusal => exact .inl rfl
      | ok saved =>
          rw [hl] at h
          dsimp only at h ⊢
          cases hc : copy saved with
          | error refusal =>
              rw [hc] at h
              obtain rfl := Except.error.inj h
              exact .inr ⟨saved, rfl, hc, rfl⟩
          | ok overlay =>
              rw [hc] at h
              exact absurd h (by simp)

/-- An opening that fails tells of the two files only. -/
theorem enter_failed_events (h : (enterWith copy s).result = .error failure) :
    ∀ e ∈ (enterWith copy s).events,
      Action.About [.environmentCreated, .environmentLoaded, .snapshotLoaded] e := by
  have henvironment := (tells_loadEnvironment s.session.envPath.text
    (.text s.session.config.envName) s.session.config.createMissing).mono
    (List.subset_append_left _ [.snapshotLoaded]) s.disk
  have hsnapshot := (tells_loadSnapshot s.session.snapshotPath).mono
    (List.subset_append_right [.environmentCreated, .environmentLoaded] _)
    s.environmentOutcome.state
  rw [enterWith_eq] at h ⊢
  cases he : s.environmentOutcome.result with
  | error refusal => exact henvironment
  | ok environment =>
      rw [he] at h
      cases hl : s.snapshotOutcome.result with
      | error refusal => exact List.forall_mem_append.2 ⟨henvironment, hsnapshot⟩
      | ok saved =>
          rw [hl] at h
          dsimp only at h ⊢
          cases hc : copy saved with
          | error refusal => exact List.forall_mem_append.2 ⟨henvironment, hsnapshot⟩
          | ok overlay =>
              rw [hc] at h
              exact absurd h (by simp)

/-- **A failed opening leaves the session as it was, unless what it loaded cannot be copied.**
Whatever copies the entries, the resolver of the session and every other resolver stay, and no
opening is told.  The reset point stays, or the failure is that of copying what was loaded, and then
that is the reset point.  The disk stays, too, unless a missing environment file is to be made: then
folders may have come on the way to its path, and behind them the file, which names no environments.
Every other file keeps its content. -/
theorem enter_failed (h : (enterWith copy s).result = .error failure) :
    (enterWith copy s).state = { s with
        disk := (enterWith copy s).state.disk
        session := { s.session with saved := (enterWith copy s).state.session.saved } } ∧
      ((enterWith copy s).state.session.saved = s.session.saved ∨
        s.snapshotOutcome.result = .ok (enterWith copy s).state.session.saved ∧
          copy (enterWith copy s).state.session.saved = .error failure) ∧
      (∀ e ∈ (enterWith copy s).events, e.topic ≠ .sessionOpened) ∧
      ((enterWith copy s).state.disk = s.disk ∨
        s.session.config.createMissing = true ∧
          s.disk.exists? s.environmentPath.text = .ok false ∧
          s.disk.Receives (enterWith copy s).state.disk s.environmentPath
            (Text.Utf8.encode emptyObject)) ∧
      ∀ loc octets, s.disk.node? loc = some (.file octets) →
        (enterWith copy s).state.disk.node? loc = some (.file octets) ∨
          (enterWith copy s).state.disk.locate s.environmentPath.codes = .ok loc := by
  have hstate := enter_failed_state h
  have hdisk : (enterWith copy s).state.disk = s.environmentOutcome.state := by
    rcases hstate with hstate | ⟨saved, -, -, hstate⟩ <;> rw [hstate]
  have hreceives := loadEnvironment_receives s.session.envPath.text s.session.config.envName
    s.session.config.createMissing s.disk
  rw [hdisk]
  refine ⟨?_, ?_, fun e he hopened => ?_, hreceives, fun loc octets hn => ?_⟩
  · rcases hstate with hstate | ⟨saved, -, -, hstate⟩ <;> rw [hstate]
  · rcases hstate with hstate | ⟨saved, hloaded, hcopy, hstate⟩
    · exact .inl (by rw [hstate])
    · rw [hstate]
      exact .inr ⟨hloaded, hcopy⟩
  · have habout := enter_failed_events h e he
    rw [Action.About, hopened] at habout
    exact absurd habout (by decide)
  · rcases hreceives with hsame | ⟨-, -, hreceives⟩
    · exact .inl ((congrArg (fun d => d.node? loc) hsame).trans hn)
    · exact hreceives.file hn

/-- An open session in the folder `/w`, with an entry that was not saved, whose environment file is
to be made in a new folder and whose snapshot file holds the given text. -/
def halfOpened (text : List Char) : Scene where
  disk := ⟨[([[0x77]], .folder), ([[0x77], [0x73]], .file (Text.Utf8.encode text))], [[0x77]]⟩
  resolvers := [⟨[(.text "key", .int 1)], []⟩]
  session := ⟨{ Config.default with envFile := "n/e", snapshotFile := "s" },
    ⟨[slash], [[0x77]]⟩, some 0, []⟩

/-- What opening it comes to where entries can be copied that are nested to a depth of 480. -/
def opening (text : List Char) : Outcome Scene Unit :=
  enterWith (Entries.copyWithin 480) (halfOpened text)

/-- Where the snapshot file is malformed, the entry and the reset point stay and the environment
file was made. -/
theorem enter_failed_halfOpened : (∃ failure, (opening ['\x7b']).result = .error failure) ∧
    (opening ['\x7b']).state.resolver 0 = ⟨[(.text "key", .int 1)], []⟩ ∧
      (opening ['\x7b']).state.session.current = some 0 ∧
      (opening ['\x7b']).state.session.saved = [] ∧
      (opening ['\x7b']).state.disk.node? [[0x77], [0x6E], [0x65]] =
        some (.file [0x7B, 0x7D]) := by
  obtain ⟨failure, hf⟩ := exists_error_of_toBool
    (show (opening ['\x7b']).result.toBool = false by decide +kernel)
  obtain ⟨hstate, hsaved, -⟩ := enter_failed hf
  have hresolver : (opening ['\x7b']).state.resolver 0 = ⟨[(.text "key", .int 1)], []⟩ := by
    rw [opening, hstate]
    rfl
  have hcurrent : (opening ['\x7b']).state.session.current = some 0 := by
    rw [opening, hstate]
    rfl
  refine ⟨⟨failure, hf⟩, hresolver, hcurrent, ?_, by decide +kernel⟩
  obtain hsame | ⟨hloaded, -⟩ := hsaved
  · exact hsame
  · -- nothing was loaded
    have hnone : (halfOpened ['\x7b']).snapshotOutcome.result.toBool = false := by decide +kernel
    rw [hloaded] at hnone
    exact absurd hnone (by simp [Except.toBool])

/-- An object with one entry, which is a list in a list, and so on. -/
def deep (levels : Nat) : List Char :=
  "\x7b\"k\":".toList ++ List.replicate levels '[' ++ List.replicate levels ']' ++ ['\x7d']

/-- **An opening that fails can move the reset point.**  Six hundred lists in each other can be read
but not copied.  Resetting worked before, and does not any more. -/
theorem enter_failed_deep : (opening (deep 600)).result.isOk = false ∧
    (halfOpened (deep 600)).session.saved.length = 0 ∧
      (opening (deep 600)).state.session.saved.length = 1 ∧
      (resetWith (Entries.copyWithin 480) (halfOpened (deep 600))).result.isOk = true ∧
      (resetWith (Entries.copyWithin 480) (opening (deep 600)).state).result.isOk = false := by
  refine ⟨?_, rfl, ?_, rfl, ?_⟩ <;> decide +kernel

end Scene

end Tiered
