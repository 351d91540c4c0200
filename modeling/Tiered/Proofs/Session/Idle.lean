import Mathlib
import Tiered.Proofs.Session.Asked
import Tiered.Proofs.Session.Opened

/-!
# Idle — a session that is opened and closed without a write

What only reads leaves an open session as it is (`run_idle_state`), so closing it behind nothing
else saves what opening loaded.  The file then holds those of the loaded entries that a file can
keep: all but the ones with a number that is not finite (`close_idle`).
-/

open Tiered.Action

namespace Tiered

open Files Store

namespace Operation

/-- The operation writes nothing: it reads, or goes back to the reset point. -/
def idles : Operation → Bool
  | ask request | askKept _ request => request.reads
  | reset | render _ _ => true
  | _ => false

end Operation

namespace Scene

variable {s t : Scene} {id : Nat}

/-- The session is open with what its reset point holds. -/
structure Unwritten (s : Scene) (id : Nat) : Prop where
  isOpen : s.session.current = some id
  made : id < s.resolvers.length
  overlay : (s.resolver id).overlay = s.session.saved
  distinct : s.session.saved.Distinct

/-- **What writes nothing leaves an unwritten session as it is.** -/
theorem run_idle_state (h : s.Unwritten id) {o : Operation} (ho : o.idles = true) :
    (o.run s).state = s := by
  have hresolving : ∀ {α : Type} {a : Action Resolver α}, (∀ r, (a r).state = r) →
      (resolving a s).state = s := by
    intro α a ha
    rw [resolving_of_open s a h.isOpen, ha]
    exact replaced_self s id
  cases o with
  | reset =>
      have hrestored : Resolver.mk (Entries.putAll [] s.session.saved) (s.resolver id).environment =
          s.resolver id := by
        rw [Entries.putAll_nil h.distinct, ← h.overlay]
      rw [Operation.run, bind_pure_state, reset_of_open s h.isOpen, hrestored]
      exact replaced_self s id
  | render v strict =>
      rw [Operation.run, bind_pure_state]
      exact hresolving (Template.render_state v strict)
  | ask request => exact hresolving (Resolver.Request.state_of_reads ho)
  | askKept kept request =>
      have hkept := Resolver.Request.state_of_reads ho (s.resolver kept)
      rw [Operation.run, onResolver, Action.focus, hkept]
      exact replaced_self s kept
  | _ => exact absurd ho (by simp [Operation.idles])

/-- So does a run of it. -/
theorem after_idle (h : s.Unwritten id) {os : List Operation} (hos : ∀ o ∈ os, o.idles = true) :
    s.after os = s := by
  induction os with
  | nil => rfl
  | cons o os ih =>
      obtain ⟨ho, hos⟩ := List.forall_mem_cons.1 hos
      rw [after_cons, run_idle_state h ho, ih hos]

/-! ### Opening and closing -/

/-- Making the environment file replaces no file, and brings none to light that the path of the
snapshot did not lead to. -/
structure Undisplaced (s : Scene) : Prop where
  kept : ¬ Overwrites s.environmentPath s.session.config.createMissing s.disk
  hidden : ¬ Uncovers s.session.snapshotPath s.disk s.environmentOutcome.state

/-- Neither happens where the paths have no double points. -/
theorem undisplaced_of_direct (ht : s.disk.Tree) (he : s.environmentPath.Direct)
    (hs : s.session.snapshotPath.Direct) : s.Undisplaced :=
  ⟨not_overwrites_of_direct ht he, not_uncovers_of_direct ht hs
    (loadEnvironment_grows _ _ _ _).here⟩

/-- **What opening loads is what would have been loaded before.** -/
theorem Undisplaced.loaded (h : s.Undisplaced) {saved : Entries}
    (hs : s.snapshotOutcome.result = .ok saved) :
    (loadSnapshot s.session.snapshotPath s.disk).result = .ok saved := by
  have hmakes : MakesFile s.environmentPath s.session.config.createMissing s.disk
      s.environmentOutcome.state := makesFile_loadEnvironment _ _ _ _
  have hgrows : s.disk.Grows s.environmentOutcome.state := loadEnvironment_grows _ _ _ _
  rw [snapshotOutcome] at hs
  rcases he : s.disk.exists? s.session.snapshotPath.text with fault | found
  -- a name too long stays too long
  · have he' : s.environmentOutcome.state.exists? s.session.snapshotPath.text = .error fault :=
      map_eq_error_iff.2 (Disk.find_error_grows hgrows (map_eq_error_iff.1 he))
    rw [loadSnapshot_eq, he'] at hs
    exact absurd hs (by simp)
  cases found with
  | true => rwa [loadSnapshot_of_keepsFiles hgrows (hmakes.keepsFiles_iff.2 h.kept) he] at hs
  | false => rw [loadSnapshot_of_missing hmakes he h.hidden hs, loadSnapshot_eq, he]

/-- An opened session is unwritten. -/
theorem unwritten_enter {environment saved : Entries} (hs : s.snapshotOutcome.result = .ok saved)
    (hstate : (enter s).state = ⟨s.snapshotOutcome.state, s.resolvers ++ [⟨saved, environment⟩],
      { s.session with saved := saved, current := some s.resolvers.length }⟩) :
    (enter s).state.Unwritten s.resolvers.length := by
  have hgives := (gives_of_loadSnapshot hs).entries
  rw [hstate]
  exact ⟨rfl, by simp, by simp [resolver], hgives.distinct⟩

/-- What closing an open session comes to that works and saves. -/
theorem saved_of_close (hp : s.session.config.persistSnapshot = true)
    (h : s.session.current = some id) (hc : (close s).result = .ok ()) :
    ∃ kept, (saveSnapshot s.session.snapshotPath (s.resolver id).overlay s.disk).result = .ok kept ∧
      (close s).state.disk =
        (saveSnapshot s.session.snapshotPath (s.resolver id).overlay s.disk).state ∧
      (close s).events =
        (saveSnapshot s.session.snapshotPath (s.resolver id).overlay s.disk).events ++
          [.sessionClosed (s.resolver id).overlay.length true] := by
  have hpersist : persist s = saveOnly s := if_pos hp
  rw [close_of_open s h, hpersist, saveOnly_eq] at hc ⊢
  obtain ⟨kept, hkept, -⟩ := map_eq_ok_iff.1 hc
  refine ⟨kept, (save_result s h).symm.trans hkept, (saved_of_save h hkept).2.1, ?_⟩
  rw [save_events s h, hp]

/-- **What opening and closing without a write leaves.**  Let opening a session work that persists
its snapshot, let nothing be written while it is open, and let closing it work.  Provided that
making the environment file does not get in the way, the snapshot that is loaded afterwards holds
those entries, in order, of the one that would have been loaded before that a file can keep: all but
the ones with a number that is not finite, of which each is told.  So it is the same exactly where
all numbers are finite. -/
theorem close_idle {os : List Operation} (hp : s.session.config.persistSnapshot = true)
    (h : (enter s).result = .ok ()) (hos : ∀ o ∈ os, o.idles = true)
    (hc : (close ((enter s).state.after os)).result = .ok ()) (hfree : s.Undisplaced) :
    ∃ before, (loadSnapshot s.session.snapshotPath s.disk).result = .ok before ∧
      let closed := close ((enter s).state.after os)
      (loadSnapshot s.session.snapshotPath closed.state.disk).result = .ok before.keep ∧
      (∀ e ∈ before, e ∈ before.keep ↔ e.2.FiniteNumbers) ∧
      (before.keep = before ↔ ∀ e ∈ before, e.2.FiniteNumbers) ∧
      closed.events = skipReports before ++
        [.snapshotSaved s.session.snapshotPath.text before.keep.length,
          .sessionClosed before.length true] := by
  obtain ⟨environment, saved, -, hs, hstate⟩ := enter_installs h
  have hunwritten := unwritten_enter hs hstate
  have hgives := gives_of_loadSnapshot hs
  rw [after_idle hunwritten hos] at hc ⊢
  refine ⟨saved, hfree.loaded hs, ?_⟩
  have hoverlay : ((enter s).state.resolver s.resolvers.length).overlay = saved := by
    rw [hunwritten.overlay, hstate]
  have hpath : (enter s).state.session.snapshotPath = s.session.snapshotPath := by rw [hstate]; rfl
  obtain ⟨kept, hsave, hdisk, hevents⟩ :=
    saved_of_close (by rw [hstate]; exact hp) hunwritten.isOpen hc
  rw [hoverlay, hpath] at hsave hdisk hevents
  have hfinite : ∀ e ∈ saved, e.2.serializable = true ↔ e.2.FiniteNumbers := fun e he =>
    Value.serializable_iff_finiteNumbers (hgives.entries.values e he).plain
  have hreread : saved.keep.reread = saved.keep := hgives.entries.keep.table.reread_entries
  have hreload := loadSnapshot_of_saved hsave hgives.regular_entries rfl
  refine ⟨?_, fun e he => ?_, ?_, ?_⟩
  · rw [hdisk, hreload]
    exact congrArg Except.ok hreread
  · rw [Entries.mem_keep, and_iff_right he, hfinite e he]
  · rw [Entries.keep, List.filter_eq_self]
    exact forall₂_congr hfinite
  · rw [hevents, events_of_saved hsave, List.append_assoc]
    rfl

/-- A session that was not opened yet, in the folder `/w` where a file `s` holds a text. -/
def idling (envFile snapshotFile : Text) (text : String) : Scene where
  disk := ⟨[([[0x77]], .folder), ([[0x77], [0x73]], .file (Text.Utf8.encode text.toList))],
    [[0x77]]⟩
  resolvers := []
  session := .new { Config.default with envFile, snapshotFile } ⟨[slash], [[0x77]]⟩

/-- The session's snapshot has a key. -/
def snapshotHas? (s : Scene) (key : Text) : Option Bool :=
  (loadSnapshot s.session.snapshotPath s.disk).result.toOption.map fun es => es.contains (.text key)

/-- A session whose snapshot holds a list. -/
def holding : Scene := idling "e" "s" "\x7b\"k\":[1]\x7d"

/-- The list is kept, where it is looked up and nothing is written. -/
theorem close_idle_kept :
    holding.snapshotHas? "k" = some true ∧
      (loadSnapshot holding.session.snapshotPath (close ((enter holding).state.after
        [.ask (.lookup (.text "k")), .reset])).state.disk).result =
        (loadSnapshot holding.session.snapshotPath holding.disk).result := by
  obtain ⟨u, h⟩ := exists_ok_of_isSome
    (show (enter holding).result.toOption.isSome = true by decide +kernel)
  obtain ⟨u', hc⟩ := exists_ok_of_isSome (show (close ((enter holding).state.after
    [.ask (.lookup (.text "k")), .reset])).result.toOption.isSome = true by decide +kernel)
  have hfolder : holding.disk.isFolder? holding.environmentPath.parent.text = .ok true := by
    decide +kernel
  have hfound : holding.disk.exists? holding.session.snapshotPath.text = .ok true := by
    decide +kernel
  have hfree : holding.Undisplaced :=
    ⟨not_overwrites_of_folder (Path.wellFormed_ofCodes _) hfolder,
      fun h => absurd (hfound.symm.trans h.missing) (by simp)⟩
  have hidle : ∀ o ∈ ([.ask (.lookup (.text "k")), .reset] : List Operation), o.idles = true := by
    simp [Operation.idles, Resolver.Request.reads]
  obtain ⟨before, hbefore, hafter, -⟩ := close_idle rfl h hidle hc hfree
  have hall : (loadSnapshot holding.session.snapshotPath holding.disk).result.toOption.map
      (fun es => es.all fun e => e.2.serializable) = some true := by decide +kernel
  rw [hbefore] at hall
  rw [hafter, hbefore]
  exact ⟨by decide +kernel, congrArg Except.ok (List.filter_eq_self.2
    (List.all_eq_true.1 (Option.some.inj hall)))⟩

/-- A number that is not finite is lost, and a snapshot is brought to light where its path leads
through the folder that is made for the environment file. -/
theorem close_idle_changes :
    let closed (s : Scene) := (close (enter s).state).state
    let lost := idling "e" "s" "\x7b\"k\":1e999\x7d"
    let uncovered := idling "n/e" "n/../s" "\x7b\"k\":1\x7d"
    (lost.snapshotHas? "k" = some true ∧ (closed lost).snapshotHas? "k" = some false) ∧
      uncovered.snapshotHas? "k" = some false ∧
        (closed uncovered).snapshotHas? "k" = some true := by
  decide +kernel

end Scene

end Tiered
