import Mathlib
import Tiered.Proofs.Resolver.Revision
import Tiered.Proofs.Session.Lifecycle

/-!
# Asked — what a run of a session asks of a resolver

A resolver that was made changes by requests only: those to the session go to it while it is the
session's, those to it by number always do, and resetting restores it to the reset point.  Nothing
else that is done with the session changes it (`resolver_run`).  So behind a run a resolver is what
the requests to it have left (`resolver_after`).
-/

open Tiered.Action

namespace Tiered

namespace Resolver

theorem asked_append (r : Resolver) (qs rs : List Request) :
    r.asked (qs ++ rs) = (r.asked qs).asked rs :=
  List.foldl_append

/-- Restoring from a table is restoring from its entries. -/
theorem asked_restore (r : Resolver) (es : Entries) :
    r.asked [.restore (.table es)] = ⟨Entries.putAll [] es, r.environment⟩ := rfl

end Resolver

namespace Scene

variable {s : Scene} {id : Nat}

/-- The scene with another resolver under a number. -/
def replaced (s : Scene) (id : Nat) (r : Resolver) : Scene :=
  { s with resolvers := s.resolvers.set id r }

/-- A resolver that was made stands where it was put. -/
theorem resolver_replaced (h : id < s.resolvers.length) (other : Nat) (r : Resolver) :
    (s.replaced other r).resolver id = if other = id then r else s.resolver id := by
  by_cases he : other = id
  · subst he
    simp [replaced, resolver, h]
  · simp [replaced, resolver, List.getElem?_set_ne he, he]

theorem resolver_replaced_of_ne {other : Nat} (h : other ≠ id) (r : Resolver) :
    (s.replaced id r).resolver other = s.resolver other := by
  simp [replaced, resolver, List.getElem?_set_ne h.symm]

theorem replaced_self (s : Scene) (id : Nat) : s.replaced id (s.resolver id) = s := by
  have hset : s.resolvers.set id (s.resolver id) = s.resolvers := by
    by_cases h : id < s.resolvers.length
    · simp [resolver, h]
    · exact List.set_eq_of_length_le (Nat.not_lt.1 h)
  rw [replaced, hset]

theorem replaced_replaced (s : Scene) (id : Nat) (r r' : Resolver) :
    (s.replaced id r).replaced id r' = s.replaced id r' := by
  rw [replaced, replaced, replaced, List.set_set]

theorem replaced_comm {other : Nat} (h : other ≠ id) (s : Scene) (r r' : Resolver) :
    (s.replaced id r).replaced other r' = (s.replaced other r').replaced id r := by
  simp only [replaced, List.set_comm _ _ h.symm]

/-- A new resolver goes behind those that were made. -/
theorem resolver_append (h : id < s.resolvers.length) (r : Resolver) :
    (s.resolvers ++ [r]).getD id ⟨[], []⟩ = s.resolver id := by
  rw [List.getD_append _ _ _ _ h]
  rfl

theorem resolver_enter (h : id < s.resolvers.length) :
    (enter s).state.resolver id = s.resolver id := by
  rw [enter_eq]
  split
  · rfl
  · split
    · rfl
    · exact resolver_append h _

/-- Opening makes one more resolver if it works. -/
theorem length_enter (s : Scene) : (enter s).state.resolvers.length =
    s.resolvers.length + if (enter s).result.isOk then 1 else 0 := by
  rw [enter_eq]
  split
  · rfl
  · split
    · rfl
    · exact List.length_append

theorem keeps_resolvers_current : Keeps Scene.resolvers current := by
  refine keeps_read.bind fun s => ?_
  split
  · exact keeps_pure _
  · exact keeps_fail _

theorem keeps_resolvers_save : Keeps Scene.resolvers save :=
  keeps_resolvers_current.bind fun _ => keeps_read.bind fun _ => Keeps.bind (fun _ => rfl) fun _ =>
    (keeps_lift _).bind fun _ => Keeps.bind (fun _ => rfl) fun _ => keeps_pure _

theorem resolvers_close (s : Scene) : (close s).state.resolvers = s.resolvers := by
  cases h : s.session.current with
  | none => rw [close_of_closed s h]
  | some id =>
      rw [close_of_open s h, persist]
      split_ifs
      · exact (keeps_resolvers_save.bind fun _ => keeps_pure _) s
      · rfl

theorem resolvers_closeOnError (s : Scene) : (closeOnError s).state.resolvers = s.resolvers := by
  rw [closeOnError_eq]
  split <;> exact resolvers_close s

end Scene

/-! ### One step -/

namespace Operation

/-- What an operation asks of the resolver with a number, of what may change it. -/
def requestTo? (id : Nat) (s : Scene) : Operation → Option Resolver.Request
  | ask request => if s.session.current = some id then some request else none
  | askKept kept request => if kept = id then some request else none
  | reset =>
    if s.session.current = some id then some (.restore (.table s.session.saved)) else none
  | _ => none

variable {s : Scene} {id : Nat} {o : Operation}

/-- A resolver after an action on the session's resolver, or on one by number. -/
theorem resolver_resolving {α : Type} (h : id < s.resolvers.length) (a : Action Resolver α) :
    (Scene.resolving a s).state.resolver id =
      if s.session.current = some id then (a (s.resolver id)).state else s.resolver id := by
  cases hc : s.session.current with
  | none => rw [Scene.resolving_of_closed s a hc, if_neg (by simp)]
  | some current =>
      rw [Scene.resolving_of_open s a hc, ← Scene.replaced, Scene.resolver_replaced h]
      by_cases he : current = id
      · subst he
        rw [if_pos rfl, if_pos rfl]
      · rw [if_neg he, if_neg fun hs => he (Option.some.inj hs)]

/-- **A resolver that was made changes by the requests to it only.** -/
theorem resolver_run (h : id < s.resolvers.length) (o : Operation) :
    (o.run s).state.resolver id = (s.resolver id).asked (o.requestTo? id s).toList := by
  cases o with
  | enter =>
      rw [run, bind_pure_state]
      exact Scene.resolver_enter h
  | reset =>
      rw [run, bind_pure_state, requestTo?]
      cases hc : s.session.current with
      | none =>
          rw [Scene.reset_of_closed s hc, if_neg (by simp)]
          rfl
      | some current =>
          rw [Scene.reset_of_open s hc]
          refine (Scene.resolver_replaced h _ _).trans ?_
          by_cases he : current = id
          · subst he
            rw [if_pos rfl, if_pos rfl]
            exact (Resolver.asked_restore _ _).symm
          · rw [if_neg he, if_neg fun hs => he (Option.some.inj hs)]
            rfl
  | save =>
      rw [run, bind_pure_state, Scene.resolver, Scene.keeps_resolvers_save]
      rfl
  | close =>
      rw [run, bind_pure_state, Scene.resolver, Scene.resolvers_close]
      rfl
  | exit failing =>
      rw [run, bind_pure_state, Scene.resolver]
      cases failing with
      | true => exact congrArg (fun rs => List.getD rs id _) (Scene.resolvers_closeOnError s)
      | false => exact congrArg (fun rs => List.getD rs id _) (Scene.resolvers_close s)
  | render v strict =>
      rw [run, bind_pure_state, Scene.render, resolver_resolving h, Template.render_state, ite_self]
      rfl
  | ask request =>
      rw [run, resolver_resolving h, requestTo?]
      split_ifs <;> rfl
  | askKept kept request =>
      refine (Scene.resolver_replaced h _ _).trans ?_
      rw [requestTo?]
      split_ifs with he
      · subst he
        rfl
      · rfl
  | disturb disk => rfl

/-- What opens no session makes no resolver. -/
theorem keeps_length_run (ho : o.opens = false) :
    Keeps (fun s : Scene => s.resolvers.length) o.run := by
  have hcurrent : Keeps (fun s : Scene => s.resolvers.length) Scene.current :=
    fun s => congrArg List.length (Scene.keeps_resolvers_current s)
  have hresolver : ∀ {α : Type} (id : Nat) (a : Action Resolver α),
      Keeps (fun s : Scene => s.resolvers.length) (Scene.onResolver id a) :=
    fun _ _ _ => List.length_set
  cases o with
  | enter => exact absurd ho (by simp [opens])
  | reset =>
      exact (hcurrent.bind fun id => keeps_read.bind fun _ => hresolver id _).bind
        fun _ => keeps_pure _
  | save =>
      refine Keeps.bind ?_ fun _ => keeps_pure _
      exact fun s => congrArg List.length (Scene.keeps_resolvers_save s)
  | close =>
      refine Keeps.bind ?_ fun _ => keeps_pure _
      exact fun s => congrArg List.length (Scene.resolvers_close s)
  | exit failing =>
      refine Keeps.bind ?_ fun _ => keeps_pure _
      cases failing with
      | true => exact fun s => congrArg List.length (Scene.resolvers_closeOnError s)
      | false => exact fun s => congrArg List.length (Scene.resolvers_close s)
  | render v strict => exact (hcurrent.bind fun id => hresolver id _).bind fun _ => keeps_pure _
  | ask request => exact hcurrent.bind fun id => hresolver id _
  | askKept id request => exact hresolver id _
  | disturb disk => exact Keeps.bind (fun _ => rfl) fun _ => keeps_pure _

/-- **An opening that works makes one more resolver, and nothing else makes or takes one.** -/
theorem length_run_eq (s : Scene) (o : Operation) : (o.run s).state.resolvers.length =
    s.resolvers.length + if o.opens && (o.run s).result.isOk then 1 else 0 := by
  cases ho : o.opens with
  | false => exact keeps_length_run ho s
  | true =>
      cases o with
      | enter =>
          rw [run, bind_pure_apply, isOk_map]
          exact Scene.length_enter s
      | _ => exact absurd ho (by simp [opens])

theorem length_run (s : Scene) (o : Operation) :
    s.resolvers.length ≤ (o.run s).state.resolvers.length :=
  (Nat.le_add_right _ _).trans_eq (o.length_run_eq s).symm

end Operation

/-! ### A run -/

namespace Scene

/-- What a run of operations asks of the resolver with a number, in order. -/
def requestsTo (s : Scene) (id : Nat) (os : List Operation) : List Resolver.Request :=
  (s.steps os).filterMap fun step => step.operation.requestTo? id step.before

/-- No run takes a resolver away. -/
theorem length_after (s : Scene) (os : List Operation) :
    s.resolvers.length ≤ (s.after os).resolvers.length := by
  induction os generalizing s with
  | nil => exact le_rfl
  | cons o os ih => exact (o.length_run s).trans (ih _)

/-- **Behind a run a resolver is what the requests to it have left.** -/
theorem resolver_after {s : Scene} {id : Nat} (h : id < s.resolvers.length)
    (os : List Operation) :
    (s.after os).resolver id = (s.resolver id).asked (s.requestsTo id os) := by
  induction os generalizing s with
  | nil => rfl
  | cons o os ih =>
      rw [after_cons, ih (h.trans_le (o.length_run s)), o.resolver_run h, ← Resolver.asked_append]
      congr 1
      rw [requestsTo, requestsTo, steps, List.filterMap_cons]
      cases o.requestTo? id s <;> rfl

end Scene

end Tiered
