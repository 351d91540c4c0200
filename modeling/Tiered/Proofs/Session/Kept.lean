import Mathlib
import Tiered.Proofs.Session.Asked
import Tiered.Proofs.Session.Environment

/-!
# Kept — a resolver that somebody keeps

Somebody who took the resolver of a session can go on with it when the session does.  Once the
session was closed or opened anew, what is done with it is the same whatever the kept resolver is
(`run_replaced`), and the kept resolver changes by the requests to it only.  So a run leaves all
else as if nothing had been asked of it, and it as if nothing else had been done (`after_replaced`,
`replies_others`, `replies_kept`).  A value is here what it is at some moment; that no two values
are one is for memory (`Layout.Owned`).
-/

open Tiered.Action

namespace Tiered

namespace Outcome

variable {σ α : Type}

/-- What can be heard of an outcome: the result and what is told. -/
def said (o : Outcome σ α) : Except Failure α × List Log.Event := (o.result, o.events)

/-- The outcome with another resolver under a number. -/
def replaced (o : Outcome Scene α) (id : Nat) (r : Resolver) : Outcome Scene α :=
  ⟨o.result, o.state.replaced id r, o.events⟩

end Outcome

namespace Scene

variable {s : Scene} {id : Nat}

/-- The resolver with a number was made, and is not that of the session. -/
structure Apart (s : Scene) (id : Nat) : Prop where
  made : id < s.resolvers.length
  other : s.session.current ≠ some id

/-! ### What is done with the session -/

theorem enter_replaced (h : id < s.resolvers.length) (r : Resolver) :
    enter (s.replaced id r) = (enter s).replaced id r := by
  have henvironment : (s.replaced id r).environmentOutcome = s.environmentOutcome := rfl
  have hsnapshot : (s.replaced id r).snapshotOutcome = s.snapshotOutcome := rfl
  rw [enter_eq, enter_eq, henvironment, hsnapshot]
  cases s.environmentOutcome.result with
  | error failure => rfl
  | ok environment =>
      cases s.snapshotOutcome.result with
      | error failure => rfl
      | ok saved =>
          simp only [Outcome.replaced, replaced, List.length_set, List.set_append_left _ _ h]

theorem resolving_replaced {α : Type} (a : Action Resolver α) (h : s.session.current ≠ some id)
    (r : Resolver) : resolving a (s.replaced id r) = (resolving a s).replaced id r := by
  cases hc : s.session.current with
  | none => rw [resolving_of_closed s a hc, resolving_of_closed (s.replaced id r) a hc]; rfl
  | some current =>
      have hne : current ≠ id := fun he => h (he ▸ hc)
      rw [resolving_of_open s a hc, resolving_of_open (s.replaced id r) a hc,
        resolver_replaced_of_ne hne]
      exact congrArg (fun state => Outcome.mk _ state _) (replaced_comm hne s r _)

theorem reset_replaced (h : s.session.current ≠ some id) (r : Resolver) :
    reset (s.replaced id r) = (reset s).replaced id r := by
  cases hc : s.session.current with
  | none => rw [reset_of_closed s hc, reset_of_closed (s.replaced id r) hc]; rfl
  | some current =>
      have hne : current ≠ id := fun he => h (he ▸ hc)
      rw [reset_of_open s hc, reset_of_open (s.replaced id r) hc, resolver_replaced_of_ne hne]
      exact congrArg (fun state => Outcome.mk _ state _) (replaced_comm hne s r _)

theorem save_replaced (h : s.session.current ≠ some id) (r : Resolver) :
    save (s.replaced id r) = (save s).replaced id r := by
  cases hc : s.session.current with
  | none => rw [save_of_closed s hc, save_of_closed (s.replaced id r) hc]; rfl
  | some current =>
      have hne : current ≠ id := fun he => h (he ▸ hc)
      rw [save_of_open s hc, save_of_open (s.replaced id r) hc, resolver_replaced_of_ne hne]
      have hdisk : (s.replaced id r).disk = s.disk := rfl
      have hsession : (s.replaced id r).session = s.session := rfl
      rw [hdisk, hsession]
      dsimp only
      cases (Store.saveSnapshot s.session.snapshotPath (s.resolver current).overlay
        s.disk).result <;> rfl

theorem close_replaced (h : s.session.current ≠ some id) (r : Resolver) :
    close (s.replaced id r) = (close s).replaced id r := by
  cases hc : s.session.current with
  | none => rw [close_of_closed s hc, close_of_closed (s.replaced id r) hc]; rfl
  | some current =>
      have hne : current ≠ id := fun he => h (he ▸ hc)
      have hpersist : persist (s.replaced id r) = (persist s).replaced id r := by
        have hsession : (s.replaced id r).session = s.session := rfl
        rw [persist, persist, hsession]
        split_ifs
        · rw [saveOnly_eq, saveOnly_eq, save_replaced h]
          rfl
        · rfl
      rw [close_of_open s hc, close_of_open (s.replaced id r) hc, resolver_replaced_of_ne hne,
        hpersist]
      rfl

theorem closeOnError_replaced (h : s.session.current ≠ some id) (r : Resolver) :
    closeOnError (s.replaced id r) = (closeOnError s).replaced id r := by
  rw [closeOnError_eq, closeOnError_eq, close_replaced h]
  rcases close s with ⟨_ | u, state, events⟩
  · rename_i failure
    cases failure <;> rfl
  · rfl

end Scene

namespace Operation

variable {s : Scene} {id : Nat}

/-- The request that the operation is to the resolver with a number, if somebody keeps it. -/
def keptRequest? (id : Nat) : Operation → Option Resolver.Request
  | askKept kept request => if kept = id then some request else none
  | _ => none

theorem bind_pure_replaced {α β : Type} {a : Action Scene α} {r : Resolver}
    (h : a (s.replaced id r) = (a s).replaced id r) (f : α → β) :
    (a >>= fun x => pure (f x)) (s.replaced id r) =
      Outcome.replaced ((a >>= fun x => pure (f x)) s) id r := by
  rw [bind_pure_apply, bind_pure_apply, h]
  rfl

/-- **What is done with the session is the same whatever the kept resolver is.** -/
theorem run_replaced (h : s.Apart id) {o : Operation} (ho : o.keptRequest? id = none)
    (r : Resolver) : o.run (s.replaced id r) = (o.run s).replaced id r := by
  cases o with
  | enter => exact bind_pure_replaced (Scene.enter_replaced h.made r) _
  | reset => exact bind_pure_replaced (Scene.reset_replaced h.other r) _
  | save => exact bind_pure_replaced (Scene.save_replaced h.other r) _
  | close => exact bind_pure_replaced (Scene.close_replaced h.other r) _
  | exit failing =>
      refine bind_pure_replaced ?_ _
      cases failing with
      | true => exact Scene.closeOnError_replaced h.other r
      | false => exact Scene.close_replaced h.other r
  | render v strict => exact bind_pure_replaced (Scene.resolving_replaced _ h.other r) _
  | ask request => exact Scene.resolving_replaced _ h.other r
  | askKept kept request =>
      have hne : kept ≠ id := by
        rintro rfl
        simp [keptRequest?] at ho
      rw [run, Scene.onResolver, Action.focus, Action.focus, Scene.resolver_replaced_of_ne hne]
      exact congrArg (fun state => Outcome.mk _ state _) (Scene.replaced_comm hne s r _)
  | disturb disk => rfl

/-- A request to the kept resolver is as if it was the only one. -/
theorem run_of_kept (h : id < s.resolvers.length) {o : Operation} {q : Resolver.Request}
    (ho : o.keptRequest? id = some q) (r : Resolver) :
    (o.run (s.replaced id r)).said = (q.run r).said ∧
      (o.run (s.replaced id r)).state = s.replaced id (q.run r).state := by
  cases o with
  | askKept kept request =>
      obtain ⟨rfl, rfl⟩ : kept = id ∧ request = q := by simpa [keptRequest?] using ho
      have hr : (s.replaced kept r).resolver kept = r := (Scene.resolver_replaced h _ _).trans
        (if_pos rfl)
      refine ⟨?_, ?_⟩
      · exact congrArg (fun r => (request.run r).said) hr
      · refine Eq.trans ?_ (Scene.replaced_replaced s kept r _)
        exact congrArg (fun r' => (s.replaced kept r).replaced kept (request.run r').state) hr
  | _ => simp [keptRequest?] at ho

/-! ### Which resolver the session has -/

/-- Closing takes the resolver from a session, and an opening that works gives it a new one. -/
theorem current_run (o : Operation) (s : Scene) :
    (o.run s).state.session.current =
      if o.closes then none
      else if o.opens && (o.run s).result.isOk then some s.resolvers.length
      else s.session.current := by
  cases hc : o.closes with
  | true => exact o.current_run_of_closes hc s
  | false =>
      cases ho : o.opens with
      | false => exact keeps_current_run ho hc s
      | true =>
          cases o with
          | enter =>
              rw [run, bind_pure_apply]
              cases hr : (Scene.enter s).result with
              | error failure => exact Scene.current_enter_error hr
              | ok u =>
                  obtain ⟨environment, saved, -, -, hstate⟩ := Scene.enter_installs hr
                  rw [hstate]
                  rfl
          | _ => exact absurd ho (by simp [opens])

end Operation

namespace Step

/-- The step closes the session, or is an opening of it that worked. -/
def detaches (step : Step) : Bool := step.opens || step.ends

variable {o : Operation} {s : Scene} {id : Nat}

/-- A session keeps its resolver until it is closed or opened anew. -/
theorem current_of_not_detaches (h : s.session.current = some id)
    (hd : detaches ⟨o, s, o.run s⟩ = false) : (o.run s).state.session.current = some id := by
  have hopen : s.session.isOpen = true := Option.isSome_iff_exists.2 ⟨id, h⟩
  obtain ⟨hopens, hends⟩ := Bool.or_eq_false_iff.1 hd
  have hcloses : o.closes = false := by simpa [ends, hopen] using hends
  have hopened : (o.opens && (o.run s).result.isOk) = false := hopens
  rw [o.current_run, hcloses, hopened, h]
  rfl

/-- A resolver that was made is not the session's behind a step that closes the session or opens it
anew. -/
theorem apart_of_detaches (hid : id < s.resolvers.length)
    (hd : detaches ⟨o, s, o.run s⟩ = true) : (o.run s).state.Apart id := by
  refine ⟨hid.trans_le (o.length_run s), ?_⟩
  rw [o.current_run]
  split_ifs with hcloses hopens
  · simp
  · exact fun he => hid.ne' (Option.some.inj he)
  · have hends : ends ⟨o, s, o.run s⟩ = false := by simp [ends, hcloses]
    rw [detaches, hends, Bool.or_false] at hd
    exact absurd hd hopens

end Step

/-- **No operation gives a session a resolver that it does not have.** -/
theorem Operation.apart_run {s : Scene} {id : Nat} (h : s.Apart id) (o : Operation) :
    (o.run s).state.Apart id := by
  refine ⟨h.made.trans_le (o.length_run s), ?_⟩
  rw [o.current_run]
  split_ifs with hcloses hopens
  · simp
  · exact fun he => h.made.ne' (Option.some.inj he)
  · exact h.other

/-! ### A run -/

namespace Resolver

/-- What is heard of requests to a resolver, one after the other. -/
def replies (r : Resolver) : List Request → List (Except Failure Answer × List Log.Event)
  | [] => []
  | q :: qs => (q.run r).said :: replies (q.run r).state qs

end Resolver

namespace Scene

/-- What is heard in a run of the operations of a kind. -/
def replies (s : Scene) (kind : Operation → Bool) (os : List Operation) :
    List (Except Failure Resolver.Answer × List Log.Event) :=
  ((s.steps os).filter fun step => kind step.operation).map fun step => step.outcome.said

variable {s : Scene} {id : Nat}

theorem replies_cons (s : Scene) (kind : Operation → Bool) (o : Operation) (os : List Operation) :
    s.replies kind (o :: os) =
      if kind o then (o.run s).said :: (o.run s).state.replies kind os
      else (o.run s).state.replies kind os := by
  rw [replies, steps, List.filter_cons]
  dsimp only
  split_ifs <;> rfl

/-- The operations other than requests to the resolver with a number that somebody keeps. -/
def others (id : Nat) (os : List Operation) : List Operation :=
  os.filter fun o => (o.keptRequest? id).isNone

theorem others_cons_of_none {o : Operation} (h : o.keptRequest? id = none)
    (os : List Operation) : others id (o :: os) = o :: others id os :=
  List.filter_cons_of_pos (by rw [h]; rfl)

theorem others_cons_of_some {o : Operation} {q : Resolver.Request}
    (h : o.keptRequest? id = some q) (os : List Operation) :
    others id (o :: os) = others id os :=
  List.filter_cons_of_neg (by simp [h])

theorem apart_after (h : s.Apart id) (os : List Operation) : (s.after os).Apart id := by
  induction os generalizing s with
  | nil => exact h
  | cons o os ih => exact ih (o.apart_run h)

/-- Behind a run in which the session was closed or opened anew, it has another resolver or none. -/
theorem apart_after_of_detaches (hid : id < s.resolvers.length) {os : List Operation}
    (hd : ∃ step ∈ s.steps os, step.detaches = true) : (s.after os).Apart id := by
  induction os generalizing s with
  | nil => simp [steps] at hd
  | cons o os ih =>
      rcases (List.exists_mem_cons_iff _ _ _).1 hd with hd | hd
      · exact apart_after (Step.apart_of_detaches hid hd) os
      · exact ih (hid.trans_le (o.length_run s)) hd

theorem current_after_of_not_detaches (h : s.session.current = some id) {os : List Operation}
    (hd : ∀ step ∈ s.steps os, step.detaches = false) :
    (s.after os).session.current = some id := by
  induction os generalizing s with
  | nil => exact h
  | cons o os ih =>
      obtain ⟨hstep, hsteps⟩ := List.forall_mem_cons.1 hd
      exact ih (Step.current_of_not_detaches h hstep) hsteps

/-- Behind a run, all but the kept resolver is as without the requests to it, and it is what these
requests make of it. -/
theorem after_replaced (h : s.Apart id) (os : List Operation) (r : Resolver) :
    (s.replaced id r).after os = (s.after (others id os)).replaced id
      (r.asked (os.filterMap (Operation.keptRequest? id))) := by
  induction os generalizing s r with
  | nil => rfl
  | cons o os ih =>
      rw [after_cons, List.filterMap_cons]
      cases ho : o.keptRequest? id with
      | none =>
          rw [Operation.run_replaced h ho, others_cons_of_none ho]
          exact ih (o.apart_run h) r
      | some q =>
          rw [(Operation.run_of_kept h.made ho r).2, others_cons_of_some ho]
          exact ih h _

/-- What is heard of the other operations is what is heard of them without those requests. -/
theorem replies_others (h : s.Apart id) (os : List Operation) (r : Resolver) :
    (s.replaced id r).replies (fun o => (o.keptRequest? id).isNone) os =
      s.replies (fun _ => true) (others id os) := by
  induction os generalizing s r with
  | nil => rfl
  | cons o os ih =>
      rw [replies_cons]
      cases ho : o.keptRequest? id with
      | none =>
          rw [Option.isNone_none, if_pos rfl, Operation.run_replaced h ho, others_cons_of_none ho,
            replies_cons, if_pos rfl]
          exact congrArg (List.cons _) (ih (o.apart_run h) r)
      | some q =>
          rw [(Operation.run_of_kept h.made ho r).2, others_cons_of_some ho]
          exact ih h _

/-- What is heard of the kept resolver is what it says to the requests to it alone. -/
theorem replies_kept (h : s.Apart id) (os : List Operation) (r : Resolver) :
    (s.replaced id r).replies (fun o => (o.keptRequest? id).isSome) os =
      r.replies (os.filterMap (Operation.keptRequest? id)) := by
  induction os generalizing s r with
  | nil => rfl
  | cons o os ih =>
      rw [replies_cons, List.filterMap_cons]
      cases ho : o.keptRequest? id with
      | none =>
          rw [Operation.run_replaced h ho]
          exact ih (o.apart_run h) r
      | some q =>
          obtain ⟨hsaid, hstate⟩ := Operation.run_of_kept h.made ho r
          rw [Option.isSome_some, if_pos rfl, hsaid, hstate]
          exact congrArg (List.cons _) (ih h _)

end Scene

end Tiered
