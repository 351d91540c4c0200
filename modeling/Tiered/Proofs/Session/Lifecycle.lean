import Mathlib
import Tiered.Proofs.Session.Exit
import Tiered.Proofs.Session.Operation
import Tiered.Proofs.Store.Reports
import Tiered.Proofs.Template.Outcome

/-!
# Lifecycle — when a session is open

An opening that works opens a session, and closing it closes it, whatever becomes of the save; no
other operation does either.  Each closing of an open session is told once, and a session that is
not open refuses what needs an open one and is left as it is (`Step.Lawful`).  So the history of a
run says when its session was open and how often it was closed (`lifecycle`).
-/

open Tiered.Action

namespace Tiered

open Files Store

theorem Session.isOpen_eq_false_iff {s : Session} : s.isOpen = false ↔ s.current = none := by
  rw [isOpen, Option.isSome_eq_false_iff, Option.isNone_iff_eq_none]

/-! ### What a session tells -/

namespace Scene

variable {topics : List Log.Topic}

theorem tells_current : current.Tells topics := by
  refine reports_read.bind fun s => ?_
  split
  · exact reports_pure _
  · exact reports_fail _

theorem tells_onResolver {α : Type} {a : Action Resolver α} (h : a.Tells topics) (id : Nat) :
    (onResolver id a).Tells topics :=
  Reports.focus h

theorem tells_resolving {α : Type} {a : Action Resolver α} (h : a.Tells topics) :
    (resolving a).Tells topics :=
  tells_current.bind fun id => tells_onResolver h id

theorem tells_enter :
    enter.Tells [.environmentCreated, .environmentLoaded, .snapshotLoaded, .sessionOpened] := by
  refine reports_read.bind fun s => Reports.bind ?_ fun environment => Reports.bind ?_ fun saved =>
    (reports_modify _).bind fun _ => (reports_lift _).bind fun _ => (reports_modify _).bind fun _ =>
      reports_emit (by simp [About, Log.Event.sessionOpened])
  · exact Reports.focus ((tells_loadEnvironment _ _ _).mono (by simp))
  · exact Reports.focus ((tells_loadSnapshot _).mono (by simp))

theorem tells_reset : reset.Tells topics :=
  tells_current.bind fun id => reports_read.bind fun _ => (reports_lift _).bind fun _ =>
    tells_onResolver (Resolver.tells_restore _) id

theorem tells_save : save.Tells [.valueSkipped, .snapshotSaved] :=
  tells_current.bind fun _ => reports_read.bind fun _ =>
    (Reports.focus (tells_saveSnapshot _ _)).bind fun _ => (reports_lift _).bind fun _ =>
      (reports_modify _).bind fun _ => reports_pure _

theorem tells_persist (s : Scene) :
    ∀ e ∈ (persist s).events, About [.valueSkipped, .snapshotSaved] e := by
  rw [persist]
  split_ifs
  · exact (tells_save.bind fun _ => reports_pure _) s
  · exact List.forall_mem_nil _

/-! ### Which operations open and close -/

/-- How often it is told that a session was closed. -/
def closings (events : List Log.Event) : Nat :=
  events.countP fun e => e.topic = .sessionClosed

theorem closings_append (es fs : List Log.Event) :
    closings (es ++ fs) = closings es + closings fs :=
  List.countP_append

theorem closings_eq_zero {events : List Log.Event} (h : ∀ e ∈ events, About topics e)
    (hne : .sessionClosed ∉ topics) : closings events = 0 := by
  refine List.countP_eq_zero.2 fun e he htopic => hne ?_
  have habout := h e he
  rwa [About, of_decide_eq_true htopic] at habout

variable {s : Scene} {id : Nat}

/-- An opening that fails leaves the session with the resolver that it had. -/
theorem current_enter_error {failure : Failure} (h : (enter s).result = .error failure) :
    (enter s).state.session.current = s.session.current := by
  rw [enter_eq] at h ⊢
  split at h
  · rfl
  · split at h
    · rfl
    · exact absurd h (by simp)

theorem isOpen_enter {u : Unit} (h : (enter s).result = .ok u) :
    (enter s).state.session.isOpen = true := by
  rw [enter_eq] at h ⊢
  split at h
  · exact absurd h (by simp)
  · split at h
    · exact absurd h (by simp)
    · rfl

/-- Closing an open session is told once. -/
theorem closings_close (h : s.session.current = some id) : closings (close s).events = 1 := by
  rw [close_of_open s h, closings_append,
    closings_eq_zero (tells_persist s) (by decide)]
  rfl

theorem closings_closeOnError (h : s.session.current = some id) :
    closings (closeOnError s).events = 1 := by
  have hclose := closings_close h
  rw [closeOnError_eq]
  split
  · exact hclose
  · rw [closings_append, hclose]
    rfl
  · exact hclose

theorem closeOnError_of_closed (h : s.session.current = none) :
    closeOnError s = ⟨.ok (), s, []⟩ := by
  rw [closeOnError_eq, close_of_closed s h]

end Scene

/-! ### One step -/

namespace Operation

variable {s : Scene} {o : Operation}

/-- What neither opens nor closes a session leaves it with the resolver that it has. -/
theorem keeps_current_run (ho : o.opens = false) (hc : o.closes = false) :
    Keeps (fun s : Scene => s.session.current) o.run := by
  cases o with
  | enter => exact absurd ho (by simp [opens])
  | close | exit failing => exact absurd hc (by simp [closes])
  | reset | render v strict | ask request | askKept id request =>
      exact keeps_run (fun _ _ => rfl) rfl
  | save =>
      refine Keeps.bind ?_ fun _ => keeps_pure _
      exact Scene.keeps_current.bind fun id => keeps_read.bind fun _ => Keeps.bind (fun _ => rfl)
        fun _ => (keeps_lift _).bind fun _ => Keeps.bind (fun _ => rfl) fun _ => keeps_pure _
  | disturb disk => exact Keeps.bind (fun _ => rfl) fun _ => keeps_pure _

/-- Opening leaves a session open if it works, and as it was if not. -/
theorem isOpen_run_of_opens (h : o.opens = true) (s : Scene) :
    (o.run s).state.session.isOpen = ((o.run s).result.isOk || s.session.isOpen) := by
  cases o with
  | enter =>
      rw [run, Action.bind_pure_apply]
      dsimp only
      cases hr : (Scene.enter s).result with
      | ok u => exact Scene.isOpen_enter hr
      | error failure => exact congrArg Option.isSome (Scene.current_enter_error hr)
  | _ => exact absurd h (by simp [opens])

/-- What an operation tells that closes nothing. -/
theorem tells_run (h : o.closes = false) :
    o.run.Tells [.variableSet, .variableResolved, .valueSkipped, .snapshotSaved,
      .environmentCreated, .environmentLoaded, .snapshotLoaded, .sessionOpened] := by
  cases o with
  | close | exit failing => exact absurd h (by simp [closes])
  | enter => exact (Scene.tells_enter.mono (by simp)).bind fun _ => reports_pure _
  | reset => exact Scene.tells_reset.bind fun _ => reports_pure _
  | save => exact (Scene.tells_save.mono (by simp)).bind fun _ => reports_pure _
  | render v strict =>
      exact (Scene.tells_resolving ((Template.tells_render v strict).mono (by simp))).bind
        fun _ => reports_pure _
  | ask request => exact Scene.tells_resolving (request.tells_run.mono (by simp))
  | askKept id request => exact Scene.tells_onResolver (request.tells_run.mono (by simp)) id
  | disturb disk => exact (reports_modify _).bind fun _ => reports_pure _

/-- A session that is not open refuses what needs an open one, and is left as it is. -/
theorem run_refused (h : s.session.current = none) (hn : o.needsOpen = true) :
    o.run s = ⟨.error .sessionNotOpen, s, []⟩ := by
  cases o with
  | enter | close | exit failing | askKept id request | disturb disk =>
      exact absurd hn (by simp [needsOpen])
  | reset => exact Action.bind_apply_of_error s (Scene.reset_of_closed s h) _
  | save => exact Action.bind_apply_of_error s (Scene.save_of_closed s h) _
  | render v strict => exact Action.bind_apply_of_error s (Scene.resolving_of_closed s _ h) _
  | ask request => exact Scene.resolving_of_closed s _ h

/-- Closing a session that is not open does nothing. -/
theorem run_idle (h : s.session.current = none) (hc : o.closes = true) :
    o.run s = ⟨.ok .done, s, []⟩ := by
  cases o with
  | close => exact Action.bind_apply_of_ok s (Scene.close_of_closed s h) _
  | exit failing =>
      cases failing with
      | true => exact Action.bind_apply_of_ok s (Scene.closeOnError_of_closed h) _
      | false => exact Action.bind_apply_of_ok s (Scene.close_of_closed s h) _
  | _ => exact absurd hc (by simp [closes])

/-- Closing an open session leaves it closed and is told once, whatever becomes of the save. -/
theorem run_closing {id : Nat} (h : s.session.current = some id) (hc : o.closes = true) :
    (o.run s).state.session.current = none ∧ Scene.closings (o.run s).events = 1 := by
  have hclose : (Scene.close s).state.session.current = none ∧
      Scene.closings (Scene.close s).events = 1 :=
    ⟨by rw [Scene.close_of_open s h]; rfl, Scene.closings_close h⟩
  cases o with
  | close =>
      rw [run, Action.bind_pure_apply]
      exact hclose
  | exit failing =>
      rw [run, Action.bind_pure_apply]
      cases failing with
      | true => exact ⟨Scene.closed_closeOnError h, Scene.closings_closeOnError h⟩
      | false => exact hclose
  | _ => exact absurd hc (by simp [closes])

theorem current_run_of_closes (hc : o.closes = true) (s : Scene) :
    (o.run s).state.session.current = none := by
  cases h : s.session.current with
  | none => rw [o.run_idle h hc, h]
  | some id => exact (o.run_closing h hc).1

theorem closes_of_opens (h : o.opens = true) : o.closes = false := by
  cases o with
  | enter => rfl
  | _ => exact absurd h (by simp [opens])

end Operation

namespace Step

/-- The step is an opening that worked. -/
def opens (step : Step) : Bool := step.operation.opens && step.outcome.result.isOk

/-- The step closes a session that was open. -/
def ends (step : Step) : Bool := step.operation.closes && step.before.session.isOpen

/-- The session is open behind a step, when it was open before or was not. -/
def leavesOpen (wasOpen : Bool) (step : Step) : Bool :=
  step.opens || (wasOpen && !step.operation.closes)

/-- What a step may do to a session. -/
structure Lawful (step : Step) : Prop where
  /-- The session is open behind an opening that worked, and stays open unless it is closed. -/
  isOpen : step.outcome.state.session.isOpen = leavesOpen step.before.session.isOpen step
  /-- The end of an open session is told once, and no other step tells of one. -/
  told : Scene.closings step.outcome.events = if step.ends then 1 else 0
  /-- Closing what is not open does nothing. -/
  idle : step.before.session.isOpen = false → step.operation.closes = true →
    step.outcome = ⟨.ok .done, step.before, []⟩
  /-- What needs an open session is refused by another one, and does nothing. -/
  refused : step.before.session.isOpen = false → step.operation.needsOpen = true →
    step.outcome = ⟨.error .sessionNotOpen, step.before, []⟩

/-- **Every step is lawful.** -/
theorem lawful_run (o : Operation) (s : Scene) : Lawful ⟨o, s, o.run s⟩ where
  isOpen := by
    simp only [leavesOpen, opens]
    cases ho : o.opens with
    | true => rw [o.isOpen_run_of_opens ho, o.closes_of_opens ho, Bool.not_false, Bool.and_true,
        Bool.true_and]
    | false =>
        cases hc : o.closes with
        | true => rw [Session.isOpen, o.current_run_of_closes hc]; simp
        | false =>
            have hkept : (o.run s).state.session.current = s.session.current :=
              Operation.keeps_current_run ho hc s
            simp [Session.isOpen, hkept]
  told := by
    by_cases hc : o.closes = true
    · cases h : s.session.current with
      | none => simp [ends, o.run_idle h hc, Session.isOpen, h, Scene.closings]
      | some id => simp [ends, hc, (o.run_closing h hc).2, Session.isOpen, h]
    · rw [Bool.not_eq_true] at hc
      simp [ends, hc, Scene.closings_eq_zero (o.tells_run hc s) (by decide)]
  idle h hc := o.run_idle (Session.isOpen_eq_false_iff.1 h) hc
  refused h hn := o.run_refused (Session.isOpen_eq_false_iff.1 h) hn

end Step

/-! ### A run -/

namespace Scene

theorem lawful_steps (s : Scene) (os : List Operation) : ∀ step ∈ s.steps os, step.Lawful :=
  forall_mem_steps Step.lawful_run s os

/-- **The lifecycle of a session.**  In a run of operations, whatever fails of them, every step is
lawful: an opening that works leaves the session open, what closes it leaves it closed and tells so
once, no other step does either, and a session that is not open refuses what needs an open one.
So behind the run the session is open if the steps leave it open, one after the other, and its end
was told as often as a step closed it while it was open. -/
theorem lifecycle (s : Scene) (os : List Operation) :
    (∀ step ∈ s.steps os, step.Lawful) ∧
      (s.after os).session.isOpen = (s.steps os).foldl Step.leavesOpen s.session.isOpen ∧
      closings (s.log os) = (s.steps os).countP Step.ends := by
  refine ⟨lawful_steps s os, ?_, ?_⟩
  · induction os generalizing s with
    | nil => rfl
    | cons o os ih =>
        rw [after_cons, ih, (Step.lawful_run o s).isOpen]
        rfl
  · induction os generalizing s with
    | nil => rfl
    | cons o os ih =>
        rw [log_cons, closings_append, ih, steps, List.countP_cons,
          (Step.lawful_run o s).told, Nat.add_comm]

end Scene

end Tiered
