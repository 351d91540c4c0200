import Mathlib
import Tiered.Proofs.Keeps
import Tiered.Proofs.Session.Open
import Tiered.Proofs.Session.Operation
import Tiered.Proofs.Store.Arrival

/-!
# Growth — what stays on the disk of a session

A session takes nothing away from its disk, whatever fails, and it keeps its settings.  So in a run
of operations more and more is there (`Scene.later_after`), and its paths lead where they led.
-/

open Tiered.Action

namespace Tiered

open Files Store

namespace Session

variable {s t : Session}

theorem envPath_congr (hconfig : t.config = s.config) (hbase : t.base = s.base) :
    t.envPath = s.envPath := by
  rw [envPath, envPath, hconfig, hbase]

theorem snapshotPath_congr (hconfig : t.config = s.config) (hbase : t.base = s.base) :
    t.snapshotPath = s.snapshotPath := by
  rw [snapshotPath, snapshotPath, hconfig, hbase]

end Session

/-- More is there, and the session has the same settings. -/
structure Scene.Later (s t : Scene) : Prop where
  disk : s.disk.Grows t.disk
  config : t.session.config = s.session.config
  base : t.session.base = s.session.base

instance : IsPreorder Scene Scene.Later where
  refl s := ⟨.refl s.disk, rfl, rfl⟩
  trans _ _ _ h h' :=
    ⟨h.disk.trans h'.disk, h'.config.trans h.config, h'.base.trans h.base⟩

namespace Scene

/-- The paths stay what they are. -/
theorem Later.environmentPath {s t : Scene} (h : s.Later t) :
    t.environmentPath = s.environmentPath := by
  rw [Scene.environmentPath, Scene.environmentPath, Session.envPath_congr h.config h.base]

theorem Later.snapshotPath {s t : Scene} (h : s.Later t) :
    t.session.snapshotPath = s.session.snapshotPath :=
  Session.snapshotPath_congr h.config h.base

theorem leads_onDisk {α : Type} {a : Action Disk α} (h : Leads Disk.Grows a) :
    Leads Later (onDisk a) :=
  fun s => ⟨h s.disk, rfl, rfl⟩

theorem leads_onResolver {α : Type} (id : Nat) (a : Action Resolver α) :
    Leads Later (onResolver id a) :=
  fun s => ⟨.refl s.disk, rfl, rfl⟩

theorem leads_current : Leads Later current := by
  refine leads_read.bind fun s => ?_
  split
  · exact leads_pure _
  · exact leads_fail _

theorem leads_resolving {α : Type} (a : Action Resolver α) : Leads Later (resolving a) :=
  leads_current.bind fun id => leads_onResolver id a

theorem leads_setSaved (es : Entries) : Leads Later (setSaved es) :=
  fun s => ⟨.refl s.disk, rfl, rfl⟩

theorem leads_enter : Leads Later enter := by
  refine leads_read.bind fun s => ?_
  refine (leads_onDisk (loadEnvironment_grows _ _ _)).bind fun environment => ?_
  refine (leads_onDisk fun d => ?_).bind fun saved => (leads_setSaved saved).bind fun _ =>
    (leads_lift _).bind fun overlay =>
      Leads.bind (fun s => ⟨.refl s.disk, rfl, rfl⟩) fun _ => leads_emit _
  rw [loadSnapshot_state]
  exact .refl d

theorem leads_save : Leads Later save :=
  leads_current.bind fun _ => leads_read.bind fun _ =>
    (leads_onDisk (saveSnapshot_grows _ _)).bind fun _ => (leads_lift _).bind fun saved =>
      (leads_setSaved saved).bind fun _ => leads_pure _

theorem leads_close : Leads Later close := by
  have hrelease : Leads Later release := fun s => ⟨.refl s.disk, rfl, rfl⟩
  have hpersist : ∀ persisted : Bool, Leads Later (if persisted then saveOnly else pure ()) := by
    intro persisted
    split_ifs
    · exact leads_save.bind fun _ => leads_pure _
    · exact leads_pure _
  refine leads_read.bind fun s => ?_
  split
  · exact leads_pure _
  · exact (hpersist _).attempt.bind fun _ => hrelease.bind fun _ => (leads_emit _).bind fun _ =>
      leads_lift _

theorem leads_closeOnError : Leads Later closeOnError := by
  refine leads_close.attempt.bind fun outcome => ?_
  split
  · exact leads_pure _
  · exact leads_emit _
  · exact leads_fail _

theorem leads_exit (failing : Bool) : Leads Later (exit failing) := by
  rw [exit, exitWith]
  split_ifs
  · exact leads_closeOnError
  · exact leads_close

end Scene

/-- **No operation of a session takes anything away from the disk**, unless somebody else leaves
another one. -/
theorem Operation.leads_run {o : Operation} (h : ∀ disk, o ≠ .disturb disk) :
    Leads Scene.Later o.run := by
  cases o with
  | enter => exact Scene.leads_enter.bind fun _ => leads_pure _
  | reset =>
      refine Leads.bind ?_ fun _ => leads_pure _
      exact Scene.leads_current.bind fun id => leads_read.bind fun _ => Scene.leads_onResolver id _
  | save => exact Scene.leads_save.bind fun _ => leads_pure _
  | close => exact Scene.leads_close.bind fun _ => leads_pure _
  | exit failing => exact (Scene.leads_exit failing).bind fun _ => leads_pure _
  | render v strict => exact (Scene.leads_resolving _).bind fun _ => leads_pure _
  | ask request => exact Scene.leads_resolving _
  | askKept id request => exact Scene.leads_onResolver id _
  | disturb disk => exact absurd rfl (h disk)

end Tiered
