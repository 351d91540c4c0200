import Mathlib
import Tiered.Proofs.Session.Outcome
import Tiered.Proofs.Store.Saving

/-!
# Exit — ending a session while another error is on its way

Ending a session that way always leaves it closed.  A failure to use the snapshot file is reported
once and goes no further; every other failure takes the place of the error on its way.  Which of
the two it is depends on the snapshot's path, on what is kept of the overlay and on the disk
(`exit_failing`).
-/

namespace Tiered

open Files Store

namespace Session

theorem wellFormed_snapshotPath {s : Session} (h : s.base.WellFormed) :
    s.snapshotPath.WellFormed :=
  h.join (Path.wellFormed_ofCodes _)

end Session

namespace Scene

variable {s : Scene} {id : Nat}

/-- Saving the overlay of the resolver with a number would stray. -/
def SavesAstray (s : Scene) (id : Nat) : Prop :=
  ¬ s.disk.RefusesFolder s.session.snapshotPath ∧
    Unsavable s.session.snapshotPath (s.resolver id).overlay

theorem persist_result (hp : s.session.config.persistSnapshot = true)
    (h : s.session.current = some id) :
    (persist s).result =
      (saveSnapshot s.session.snapshotPath (s.resolver id).overlay s.disk).result.map
        fun _ => () := by
  rw [persist, if_pos hp, saveOnly_eq, save_result s h]

/-- **Saving at the end strays exactly when it is asked for and saving would.** -/
theorem straysWhen_persist (hb : s.session.base.WellFormed) (h : s.session.current = some id) :
    StraysWhen snapshotFile s.session.snapshotPath (persist s).result
      (s.session.config.persistSnapshot = true ∧ s.SavesAstray id) := by
  by_cases hp : s.session.config.persistSnapshot = true
  · rw [persist_result hp h]
    exact ((straysWhen_saveSnapshot (Session.wellFormed_snapshotPath hb) _ _).map _).congr
      (and_iff_right hp).symm
  · rw [persist, if_neg hp]
    exact straysWhen_ok () fun h => hp h.1

theorem saveFailures_persist (h : s.session.current = some id) :
    saveFailures (persist s).events = 0 := by
  rw [persist]
  split_ifs
  · rw [saveOnly_eq, save_events s h]
    exact saveFailures_saveSnapshot _ _ _
  · rfl

theorem saveFailures_close (h : s.session.current = some id) :
    saveFailures (close s).events = 0 := by
  rw [close_of_open s h, saveFailures, List.countP_append]
  exact Nat.add_eq_zero_iff.2 ⟨saveFailures_persist h, rfl⟩

/-- An open session is closed by the end, whatever comes of saving. -/
theorem closed_closeOnError (h : s.session.current = some id) :
    (closeOnError s).state.session.current = none := by
  have hclose : (close s).state.session.current = none := by rw [close_of_open s h]; rfl
  rw [closeOnError_eq]
  split <;> exact hclose

/-- No failure takes the place of the error on its way unless saving strays. -/
theorem closeOnError_result_iff (hb : s.session.base.WellFormed)
    (h : s.session.current = some id) :
    (closeOnError s).result = .ok () ↔
      ¬ (s.session.config.persistSnapshot = true ∧ s.SavesAstray id) := by
  have hresult : (close s).result = (persist s).result := by rw [close_of_open s h]
  rw [closeOnError_eq, ← (straysWhen_persist hb h).stray, hresult]
  split
  · next hr => exact iff_of_true (hresult.trans hr) (by simp [hr])
  · next path reason hr =>
    refine iff_of_true rfl ?_
    -- a failure to use the snapshot file does not stray
    rintro ⟨failure, hf, hs⟩
    exact (hs path reason).2 (Except.error.inj (hf.symm.trans hr))
  · next failure hne hr =>
    refine iff_of_false (by simp) (not_not.2 ⟨failure, hr, ?_⟩)
    refine ((straysWhen_persist hb h).told failure hr).resolve_left ?_
    rintro ⟨reason, rfl⟩
    exact hne _ _ rfl

/-- That saving failed is reported where the failure goes no further, and then once. -/
theorem saveFailures_closeOnError (h : s.session.current = some id) :
    saveFailures (closeOnError s).events =
      match (persist s).result with
      | .error (.snapshotFile _ _) => 1
      | _ => 0 := by
  have hresult : (close s).result = (persist s).result := by rw [close_of_open s h]
  have hcount := saveFailures_close h
  rw [closeOnError_eq, hresult]
  cases hr : (persist s).result with
  | ok u => exact hcount
  | error failure =>
      cases failure
      case snapshotFile path reason =>
        simp only [saveFailures, List.countP_append]
        exact congrArg (· + 1) hcount
      all_goals exact hcount

theorem saveFailures_of_failure (h : s.session.current = some id)
    (hr : (closeOnError s).result ≠ .ok ()) : saveFailures (closeOnError s).events = 0 := by
  have hresult : (close s).result = (persist s).result := by rw [close_of_open s h]
  rw [saveFailures_closeOnError h]
  rw [closeOnError_eq, hresult] at hr
  split at hr
  · next hok => exact absurd (hresult.trans hok) hr
  · exact absurd rfl hr
  · next failure hne hfail =>
    rw [hfail]
    split
    · next hf => exact absurd (Except.error.inj hf) (hne _ _)
    · rfl

/-- **What ending a session does while another error is on its way.**  The session is closed.  No
failure takes the error's place unless saving is asked for and strays.  If none does, a failed
save is reported exactly once, and nothing of the kind is reported if nothing failed. -/
theorem exit_failing (hb : s.session.base.WellFormed) (h : s.session.current = some id) :
    (exit true s).state.session.isOpen = false ∧
      ((exit true s).result = .ok () ↔
        ¬ (s.session.config.persistSnapshot = true ∧ s.SavesAstray id)) ∧
      ((exit true s).result = .ok () →
        ∀ failure, (persist s).result = .error failure → saveFailures (exit true s).events = 1) ∧
      ((persist s).result = .ok () → saveFailures (exit true s).events = 0) := by
  have hexit : exit true s = closeOnError s := rfl
  have hcount := saveFailures_closeOnError h
  rw [hexit]
  refine ⟨by rw [Session.isOpen, closed_closeOnError h]; rfl, closeOnError_result_iff hb h,
    fun hok failure hr => ?_, fun hr => by rw [hcount, hr]⟩
  rw [closeOnError_result_iff hb h, ← (straysWhen_persist hb h).stray] at hok
  obtain ⟨reason, rfl⟩ := ((straysWhen_persist hb h).told failure hr).resolve_right
    fun hs => hok ⟨failure, hr, hs⟩
  rw [hcount, hr]
  rfl

/-- An open session in the folder `/w` of a disk, with one entry in its overlay. -/
def single (nodes : List (Location × Node)) (snapshotFile : String) (value : Value) : Scene where
  disk := ⟨([[0x77]], .folder) :: nodes, [[0x77]]⟩
  resolvers := [⟨[(.text "key", value)], []⟩]
  session := ⟨{ Config.default with snapshotFile := snapshotFile }, ⟨[slash], [[0x77]]⟩, some 0, []⟩

theorem wellFormed_base_single (nodes : List (Location × Node)) (snapshotFile : String)
    (value : Value) : (single nodes snapshotFile value).session.base.WellFormed :=
  ⟨.inr (.inl rfl), by simp [single, Path.Proper, isName, slash, point]⟩

/-- A session whose snapshot would be in a folder where a file stands. -/
def blocked : Scene := single [([[0x77], [0x62]], .file [])] "b/s" (.int 1)

/-- Where a file stands in place of the snapshot's folder, the error goes on and the failed save is
reported. -/
theorem exit_failing_blocked :
    (exit true blocked).result = .ok () ∧ saveFailures (exit true blocked).events = 1 := by
  have hb : blocked.session.base.WellFormed := wellFormed_base_single _ _ _
  obtain ⟨-, hok, hcount, -⟩ := exit_failing hb rfl
  have hmake : blocked.disk.makeFolders blocked.session.snapshotPath.parent =
      (blocked.disk, some (.refused .exists ⟨[slash, 0x77, slash, 0x62]⟩)) := by
    rw [Disk.makeFolders]
    rfl
  have hresult := hok.2 fun hastray =>
    hastray.2.1 ⟨_, _, hmake, Fault.refusal_refused _ _⟩
  refine ⟨hresult, hcount hresult (snapshotFile.failureOf blocked.session.snapshotPath
    (.refused .exists ⟨[slash, 0x77, slash, 0x62]⟩)) ?_⟩
  rw [persist_result rfl rfl, map_eq_error_iff, saveSnapshot_eq, hmake]

/-- A whole number without a text in the overlay puts its own failure in the place of the error on
its way. -/
theorem exit_failing_overlong :
    (exit true (single [] "s" (.int (10 ^ 5000)))).result ≠ .ok () ∧
      saveFailures (exit true (single [] "s" (.int (10 ^ 5000)))).events = 0 := by
  have hn : Nameable (single [] "s" (.int (10 ^ 5000))).session.snapshotPath.parent.text :=
    ⟨by decide, by decide⟩
  have hmake := Disk.makeFolders_of_folder (d := (single [] "s" (.int (10 ^ 5000))).disk) hn
    (by rfl)
  have hlong : ¬ (Value.int (10 ^ 5000)).Spellable := by
    rw [Value.Spellable, Number.Decimal.length_digits_le_iff (by decide)]
    exact Nat.not_lt.2 (Nat.pow_le_pow_right (by decide) (by decide))
  have hastray : (single [] "s" (.int (10 ^ 5000))).SavesAstray 0 := by
    refine ⟨?_, .inr ⟨(.text "key", .int (10 ^ 5000)), ?_, ?_⟩⟩
    · rintro ⟨made, fault, hm, -⟩
      rw [hmake] at hm
      exact absurd hm (by simp)
    · exact Entries.mem_keep.2 ⟨List.mem_singleton.2 rfl, rfl⟩
    · exact fun h => hlong h.2
  have hresult := (closeOnError_result_iff (wellFormed_base_single [] "s" (.int (10 ^ 5000)))
    rfl).not.2 (not_not.2 ⟨rfl, hastray⟩)
  exact ⟨hresult, saveFailures_of_failure rfl hresult⟩

end Scene

end Tiered
