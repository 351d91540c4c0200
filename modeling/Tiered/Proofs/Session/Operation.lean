import Mathlib
import Tiered.Proofs.Resolver.Request
import Tiered.Session.Basic

/-!
# Operation — what is done with a session, step by step

A session is opened, used and closed in any order, a resolver that was taken from it may be used
beside it, and the disk may change meanwhile.  An operation that fails is followed by the next one,
too.
-/

open Tiered.Action

namespace Tiered

open Files

/-- What can be done with a session and with the resolvers that were taken from it. -/
inductive Operation where
  | enter
  | reset
  | save
  | close
  | exit (failing : Bool)
  | render (v : Value) (strict : Bool)
  /-- A request to the resolver of the session. -/
  | ask (request : Resolver.Request)
  /-- A request to a resolver that somebody keeps, by number. -/
  | askKept (id : Nat) (request : Resolver.Request)
  /-- Somebody else leaves another disk. -/
  | disturb (disk : Disk)
  deriving Repr

namespace Operation

/-- What an operation does to a session. -/
def run : Operation → Action Scene Resolver.Answer
  | enter => do
    Scene.enter
    return .done
  | reset => do
    Scene.reset
    return .done
  | save => do return .entries (← Scene.save)
  | close => do
    Scene.close
    return .done
  | exit failing => do
    Scene.exit failing
    return .done
  | render v strict => do return .value (← Scene.render v strict)
  | ask request => Scene.resolving request.run
  | askKept id request => Scene.onResolver id request.run
  | disturb disk => do
    Action.modify fun s => { s with disk }
    return .done

/-- The operation opens the session, if it works. -/
def opens : Operation → Bool
  | enter => true
  | _ => false

/-- The operation closes the session. -/
def closes : Operation → Bool
  | close | exit _ => true
  | _ => false

/-- The operation is for a session that is open. -/
def needsOpen : Operation → Bool
  | reset | save | render _ _ | ask _ => true
  | _ => false

/-- The operation is one on resolvers alone. -/
def resolves : Operation → Bool
  | reset | render _ _ | ask _ | askKept _ _ => true
  | _ => false

end Operation

/-! ### What operations on resolvers leave alone -/

section Resolves

variable {γ : Type} {view : Scene → γ}

theorem Scene.keeps_current : Keeps view Scene.current := by
  refine keeps_read.bind fun s => ?_
  split
  · exact keeps_pure _
  · exact keeps_fail _

/-- What shows nothing of the resolvers is kept by operations on resolvers. -/
theorem Operation.keeps_run (h : ∀ (s : Scene) (resolvers : List Resolver),
    view { s with resolvers } = view s) {o : Operation} (ho : o.resolves = true) :
    Keeps view o.run := by
  have hresolver : ∀ {α : Type} (id : Nat) (a : Action Resolver α),
      Keeps view (Scene.onResolver id a) := fun _ _ s => h s _
  cases o with
  | reset =>
      exact (Scene.keeps_current.bind fun id => keeps_read.bind fun _ => hresolver id _).bind
        fun _ => keeps_pure _
  | render v strict =>
      exact (Scene.keeps_current.bind fun id => hresolver id _).bind fun _ => keeps_pure _
  | ask request => exact Scene.keeps_current.bind fun id => hresolver id _
  | askKept id request => exact hresolver id _
  | enter | save | close | exit failing | disturb disk => exact absurd ho (by simp [resolves])

end Resolves

/-- A step of a run: an operation, the scene before it, and what it came to. -/
structure Step where
  operation : Operation
  before : Scene
  outcome : Outcome Scene Resolver.Answer

namespace Scene

/-- The steps of a run of operations. -/
def steps (s : Scene) : List Operation → List Step
  | [] => []
  | o :: os => ⟨o, s, o.run s⟩ :: steps (o.run s).state os

/-- The scene that a run of operations leaves. -/
def after (s : Scene) (os : List Operation) : Scene := os.foldl (fun s o => (o.run s).state) s

/-- What a run of operations tells. -/
def log (s : Scene) (os : List Operation) : List Log.Event :=
  (s.steps os).flatMap fun step => step.outcome.events

/-- The last step of a run leaves what the run leaves. -/
theorem after_cons (s : Scene) (o : Operation) (os : List Operation) :
    s.after (o :: os) = (o.run s).state.after os := rfl

theorem log_cons (s : Scene) (o : Operation) (os : List Operation) :
    s.log (o :: os) = (o.run s).events ++ (o.run s).state.log os := List.flatMap_cons

/-- What every operation does in every scene, every step of a run does. -/
theorem forall_mem_steps {P : Step → Prop} (h : ∀ o s, P ⟨o, s, o.run s⟩) (s : Scene)
    (os : List Operation) : ∀ step ∈ s.steps os, P step := by
  induction os generalizing s with
  | nil => exact List.forall_mem_nil _
  | cons o os ih => exact List.forall_mem_cons.2 ⟨h o s, ih _⟩

end Scene

end Tiered
