import Tiered.Failure
import Tiered.Log.Event

/-!
# Action — operations on a state that may fail and that report events

An action takes a state and gives a result or a failure, the state that it leaves, and the events
that it reported, in order.  What was done and reported before a failure stays: a failure ends the
action and undoes nothing.
-/

namespace Tiered

/-- What an action comes to. -/
structure Outcome (σ α : Type) where
  result : Except Failure α
  state : σ
  events : List Log.Event

/-- An operation on a state. -/
def Action (σ α : Type) : Type := σ → Outcome σ α

namespace Action

variable {σ τ α β : Type}

/-- What the action comes to on a state. -/
def run (a : Action σ α) (s : σ) : Outcome σ α := a s

/-- The result alone. -/
protected def pure (x : α) : Action σ α := fun s => ⟨.ok x, s, []⟩

/-- One action, and then another on what it gave. -/
protected def bind (a : Action σ α) (f : α → Action σ β) : Action σ β := fun s =>
  let first := a s
  match first.result with
  | .error failure => ⟨.error failure, first.state, first.events⟩
  | .ok x =>
    let second := f x first.state
    ⟨second.result, second.state, first.events ++ second.events⟩

instance : Monad (Action σ) where
  pure := Action.pure
  bind := Action.bind

/-- Fails. -/
def fail (failure : Failure) : Action σ α := fun s => ⟨.error failure, s, []⟩

/-- Reports an event. -/
def emit (event : Log.Event) : Action σ Unit := fun s => ⟨.ok (), s, [event]⟩

/-- Reports events, in order. -/
def emitAll (events : List Log.Event) : Action σ Unit := fun s => ⟨.ok (), s, events⟩

/-- The state. -/
def read : Action σ σ := fun s => ⟨.ok s, s, []⟩

/-- Changes the state. -/
def modify (f : σ → σ) : Action σ Unit := fun s => ⟨.ok (), f s, []⟩

/-- A result, or the failure that it is. -/
def lift (r : Except Failure α) : Action σ α := fun s => ⟨r, s, []⟩

/-- The failure of an action as a result. -/
def attempt (a : Action σ α) : Action σ (Except Failure α) := fun s =>
  let o := a s
  ⟨.ok o.result, o.state, o.events⟩

/-- An action on a part of the state. -/
def focus (get : σ → τ) (put : τ → σ → σ) (a : Action τ α) : Action σ α := fun s =>
  let o := a (get s)
  ⟨o.result, put o.state s, o.events⟩

/-- An action whose events nobody hears unless `heard`. -/
def heardIf (heard : Bool) (a : Action σ α) : Action σ α := fun s =>
  let o := a s
  ⟨o.result, o.state, if heard then o.events else []⟩

section Laws

variable (s : σ)

@[simp] theorem pure_apply (x : α) : (pure x : Action σ α) s = ⟨.ok x, s, []⟩ := rfl

theorem bind_apply (a : Action σ α) (f : α → Action σ β) :
    (a >>= f) s = match (a s).result with
      | .error failure => ⟨.error failure, (a s).state, (a s).events⟩
      | .ok x => ⟨(f x (a s).state).result, (f x (a s).state).state,
          (a s).events ++ (f x (a s).state).events⟩ := rfl

theorem bind_apply_of_ok {a : Action σ α} {x : α} {t : σ} {es : List Log.Event}
    (h : a s = ⟨.ok x, t, es⟩) (f : α → Action σ β) :
    (a >>= f) s = ⟨(f x t).result, (f x t).state, es ++ (f x t).events⟩ := by
  rw [bind_apply, h]

theorem bind_apply_of_error {a : Action σ α} {e : Failure} {t : σ} {es : List Log.Event}
    (h : a s = ⟨.error e, t, es⟩) (f : α → Action σ β) :
    (a >>= f) s = ⟨.error e, t, es⟩ := by
  rw [bind_apply, h]

@[simp] theorem fail_apply (e : Failure) : (fail e : Action σ α) s = ⟨.error e, s, []⟩ := rfl

@[simp] theorem emit_apply (e : Log.Event) : (emit e : Action σ Unit) s = ⟨.ok (), s, [e]⟩ := rfl

@[simp] theorem emitAll_apply (es : List Log.Event) :
    (emitAll es : Action σ Unit) s = ⟨.ok (), s, es⟩ := rfl

@[simp] theorem read_apply : (read : Action σ σ) s = ⟨.ok s, s, []⟩ := rfl

@[simp] theorem modify_apply (f : σ → σ) : (modify f : Action σ Unit) s = ⟨.ok (), f s, []⟩ := rfl

@[simp] theorem lift_apply (r : Except Failure α) : (lift r : Action σ α) s = ⟨r, s, []⟩ := rfl

end Laws

end Action

end Tiered
