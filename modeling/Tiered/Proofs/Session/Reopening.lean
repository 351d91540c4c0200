import Mathlib
import Tiered.Proofs.Session.Growth
import Tiered.Proofs.Session.Idle
import Tiered.Proofs.Session.Opened
import Tiered.Proofs.Store.Reports

/-!
# Reopening — opening a second time

A missing environment file is made before the snapshot is read, and the folders that are made on the
way can change where a path leads.  But all of that is done when the environments are read: read
again, they are what they were, nothing is made, and nobody is told of a new file
(`readEnvironments_again`).  So a session that was opened finds the same on its disk when it is
opened anew, and so does another session with its settings (`enter_again`).
-/

open Tiered.Action

namespace Tiered

open Files

/-- The events but those of a new environment file. -/
def Log.withoutCreation (events : List Log.Event) : List Log.Event :=
  events.filter fun e => e.topic ≠ .environmentCreated

namespace Log

variable {events : List Event}

theorem topic_of_mem_withoutCreation {e : Event} (h : e ∈ withoutCreation events) :
    e.topic ≠ .environmentCreated := of_decide_eq_true (List.mem_filter.1 h).2

theorem withoutCreation_append (es fs : List Event) :
    withoutCreation (es ++ fs) = withoutCreation es ++ withoutCreation fs :=
  List.filter_append ..

/-- Where a new file is told of and nothing else, nothing is left. -/
theorem withoutCreation_eq_nil (h : ∀ e ∈ events, About [.environmentCreated] e) :
    withoutCreation events = [] := by
  refine List.filter_eq_nil_iff.2 fun e he => ?_
  rw [decide_eq_true_eq, not_not]
  exact List.mem_singleton.1 (h e he)

/-- Where no new file is told of, everything is left. -/
theorem withoutCreation_eq_self (h : ∀ e ∈ events, e.topic ≠ .environmentCreated) :
    withoutCreation events = events :=
  List.filter_eq_self.2 fun e he => decide_eq_true (h e he)

end Log

namespace Store

open Log

variable {d : Disk} {createMissing : Bool} {es : Entries}

/-! ### Loading a second time -/

/-- What reading the environments of a file comes to. -/
theorem readEnvironments_of_readFile {path : Path} {octets : Text.Utf8.Octets}
    (h : d.readFile path.text = .ok octets) : readEnvironments path createMissing d =
      ⟨(textOf octets).bind (environmentFile.parse path), d, []⟩ := by
  rw [readEnvironments_eq, Disk.exists?_of_readFile h, h]

/-- **Environments that were read are read again as they are**, and no file is made. -/
theorem readEnvironments_again {path : Path}
    (h : (readEnvironments path createMissing d).result = .ok es) :
    readEnvironments path createMissing (readEnvironments path createMissing d).state =
      ⟨.ok es, (readEnvironments path createMissing d).state, []⟩ := by
  have hfirst := readEnvironments_eq path createMissing d
  cases he : d.exists? path.text with
  | error fault => simp [hfirst, he] at h
  | ok found =>
      cases found with
      | true =>
          cases hr : d.readFile path.text with
          | error fault => simp [hfirst, he, hr] at h
          | ok octets =>
              rw [readEnvironments_of_readFile hr] at h ⊢
              dsimp only at h ⊢
              rw [readEnvironments_of_readFile hr, h]
      | false =>
          cases createMissing with
          | false =>
              have hnone : readEnvironments path false d = ⟨.ok [], d, []⟩ := by
                rw [hfirst, he]
                rfl
              rw [hnone] at h ⊢
              obtain rfl := Except.ok.inj h
              exact hnone
          | true =>
              -- the file that is made holds no environments
              rw [hfirst, he] at h ⊢
              obtain ⟨u, hcreate, rfl⟩ := map_eq_ok_iff.1 h
              exact readEnvironments_of_readFile (readFile_createEnvironments hcreate)

/-- **An environment that was loaded is loaded again as it is.**  The same is told but for a new
file. -/
theorem loadEnvironment_again {shownAs name : Text}
    (h : (loadEnvironment shownAs (.text name) createMissing d).result = .ok es) :
    loadEnvironment shownAs (.text name) createMissing
        (loadEnvironment shownAs (.text name) createMissing d).state =
      ⟨.ok es, (loadEnvironment shownAs (.text name) createMissing d).state,
        withoutCreation (loadEnvironment shownAs (.text name) createMissing d).events⟩ := by
  have htold := tells_readEnvironments (.ofText shownAs) createMissing d
  rw [loadEnvironment_eq shownAs name createMissing d] at h ⊢
  dsimp only at h ⊢
  cases hs : (readEnvironments (.ofText shownAs) createMissing d).result.bind
      (selected shownAs (.text name)) with
  | error failure => simp [hs] at h
  | ok entries =>
      rw [hs] at h
      obtain rfl := Except.ok.inj h
      obtain ⟨environments, hread, hselected⟩ := bind_eq_ok_iff.1 hs
      dsimp only
      rw [loadEnvironment_eq, readEnvironments_again hread]
      dsimp only [Except.bind]
      rw [hselected, withoutCreation_append, withoutCreation_eq_nil htold]
      rfl

end Store

/-! ### Opening a second time -/

namespace Scene

open Log

variable {s t : Scene}

/-- The environment of a scene on the disk that was left is loaded as before. -/
theorem environmentOutcome_again {environment : Entries}
    (h : s.environmentOutcome.result = .ok environment)
    (hdisk : t.disk = s.environmentOutcome.state)
    (hconfig : t.session.config = s.session.config) (hbase : t.session.base = s.session.base) :
    t.environmentOutcome =
      ⟨.ok environment, t.disk, withoutCreation s.environmentOutcome.events⟩ := by
  rw [environmentOutcome, Session.envPath_congr hconfig hbase, hconfig, hdisk]
  exact Store.loadEnvironment_again h

/-- **Opening again finds what was found.**  Where an opening works, so does one by a scene on the
disk that it left whose session has the same settings, be it the same session or another one, open
or not.  It leaves the disk, makes a resolver with an equal overlay and an equal environment, and
moves to an equal reset point.  It tells the same but for a new environment file, of which it does
not tell. -/
theorem enter_again (h : (enter s).result = .ok ()) (hdisk : t.disk = (enter s).state.disk)
    (hconfig : t.session.config = s.session.config) (hbase : t.session.base = s.session.base) :
    ∃ environment saved,
      (enter s).state = ⟨t.disk, s.resolvers ++ [⟨saved, environment⟩],
        { s.session with saved := saved, current := some s.resolvers.length }⟩ ∧
      (enter t).result = .ok () ∧
      (enter t).state = ⟨t.disk, t.resolvers ++ [⟨saved, environment⟩],
        { t.session with saved := saved, current := some t.resolvers.length }⟩ ∧
      (enter t).events = withoutCreation (enter s).events ∧
      ∀ e ∈ (enter t).events, e.topic ≠ .environmentCreated := by
  obtain ⟨environment, saved, he, hs, hstate⟩ := enter_installs h
  have hkept : s.snapshotOutcome.state = s.environmentOutcome.state := snapshotOutcome_state s
  have hfirst : t.disk = s.environmentOutcome.state := hdisk.trans (disk_enter s)
  have hagain := environmentOutcome_again he hfirst hconfig hbase
  have hsnapshot : t.snapshotOutcome = s.snapshotOutcome := by
    rw [snapshotOutcome, snapshotOutcome, Session.snapshotPath_congr hconfig hbase, hagain, hfirst]
  have hevents : (enter t).events = withoutCreation (enter s).events := by
    have hloaded : ∀ e ∈ s.snapshotOutcome.events, e.topic ≠ .environmentCreated := by
      intro e hmem hsame
      have habout := Store.tells_loadSnapshot _ _ e hmem
      rw [About, hsame] at habout
      exact absurd habout (by simp)
    rw [enter_eq, enter_eq, hagain, hsnapshot, he, hs]
    dsimp only
    rw [withoutCreation_append, withoutCreation_append, withoutCreation_eq_self hloaded, hconfig]
    rfl
  refine ⟨environment, saved, ?_, ?_, ?_, hevents, fun e hmem => ?_⟩
  · rw [hstate, hkept, hfirst]
  · rw [enter_eq, hagain, hsnapshot, hs]
  · rw [enter_eq, hagain, hsnapshot, hs]
    dsimp only
    rw [hkept, hfirst]
  · rw [hevents] at hmem
    exact topic_of_mem_withoutCreation hmem

/-- Another session with the same settings, behind the opening of one. -/
def another (s : Scene) : Scene :=
  ⟨(enter s).state.disk, (enter s).state.resolvers, .new s.session.config s.session.base⟩

/-- A session for whose environment file a folder is made, which brings its snapshot to light. -/
def uncovering : Scene := idling "n/e" "n/../s" "\x7b\"k\":1\x7d"

/-- The session that is opened again and another one find the snapshot that the first opening
brought to light. -/
theorem enter_again_uncovered :
    uncovering.snapshotHas? "k" = some false ∧
      ∃ environment saved, (enter uncovering).state.session.saved = saved ∧
        saved.contains (.text "k") = true ∧
        (enter (enter uncovering).state).state.session.saved = saved ∧
        (enter (another uncovering)).state.disk = (enter uncovering).state.disk ∧
        (enter (another uncovering)).state.resolvers =
          (another uncovering).resolvers ++ [⟨saved, environment⟩] := by
  obtain ⟨u, h⟩ := exists_ok_of_isSome
    (show (enter uncovering).result.toOption.isSome = true by decide +kernel)
  have hfound : (enter uncovering).state.session.saved.contains (.text "k") = true := by
    decide +kernel
  refine ⟨by decide +kernel, ?_⟩
  generalize uncovering = s at h hfound
  obtain ⟨environment, saved, hfirst, -, hstate, -⟩ :=
    enter_again (t := another s) h rfl rfl rfl
  obtain ⟨environment', saved', hfirst', -, hstate', -⟩ :=
    enter_again (t := (enter s).state) h rfl (leads_enter s).config (leads_enter s).base
  have hsaved : (enter s).state.session.saved = saved := by rw [hfirst]
  have hsaved' : (enter s).state.session.saved = saved' := by rw [hfirst']
  refine ⟨environment, saved, hsaved, hsaved ▸ hfound, ?_, ?_, ?_⟩
  · rw [hstate', ← hsaved, hsaved']
  · rw [hstate, another]
  · rw [hstate]

end Scene

end Tiered
