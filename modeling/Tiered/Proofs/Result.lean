import Mathlib
import Tiered.Action

/-!
# Result — results that may be errors

When a result that was made from another one is right, and when it is an error.
-/

namespace Tiered

variable {ε α β γ : Type}

theorem map_map (f : α → β) (g : β → γ) (x : Except ε α) :
    (x.map f).map g = x.map fun a => g (f a) := by
  cases x <;> rfl

theorem map_eq_ok_iff {f : α → β} {x : Except ε α} {b : β} :
    x.map f = .ok b ↔ ∃ a, x = .ok a ∧ f a = b := by
  cases x <;> simp [Except.map]

theorem bind_eq_ok_iff {f : α → Except ε β} {x : Except ε α} {b : β} :
    x.bind f = .ok b ↔ ∃ a, x = .ok a ∧ f a = .ok b := by
  cases x <;> simp [Except.bind]

theorem map_eq_error_iff {f : α → β} {x : Except ε α} {e : ε} :
    x.map f = .error e ↔ x = .error e := by
  cases x <;> simp [Except.map]

theorem bind_eq_error_iff {f : α → Except ε β} {x : Except ε α} {e : ε} :
    x.bind f = .error e ↔ x = .error e ∨ ∃ a, x = .ok a ∧ f a = .error e := by
  cases x <;> simp [Except.bind]

theorem mapError_eq_ok_iff {δ : Type} {f : ε → δ} {x : Except ε α} {a : α} :
    x.mapError f = .ok a ↔ x = .ok a := by
  cases x <;> simp [Except.mapError]

theorem isOk_map {f : α → β} {x : Except ε α} : (x.map f).isOk = x.isOk := by
  cases x <;> rfl

theorem exists_ok_of_isSome {x : Except ε α} (h : x.toOption.isSome = true) : ∃ a, x = .ok a := by
  cases x with
  | ok a => exact ⟨a, rfl⟩
  | error e => simp [Except.toOption] at h

theorem exists_error_of_toBool {x : Except ε α} (h : x.toBool = false) : ∃ e, x = .error e := by
  cases x with
  | ok a => simp [Except.toBool] at h
  | error e => exact ⟨e, rfl⟩

/-- What is made of what an action gives is made of its result. -/
theorem Action.bind_pure_apply {σ : Type} (a : Action σ α) (f : α → β) (s : σ) :
    (a >>= fun x => pure (f x)) s = ⟨(a s).result.map f, (a s).state, (a s).events⟩ := by
  simp only [bind_apply, pure_apply, List.append_nil]
  cases (a s).result <;> rfl

theorem Action.bind_pure_state {σ : Type} (a : Action σ α) (f : α → β) (s : σ) :
    ((a >>= fun x => pure (f x)) s).state = (a s).state :=
  congrArg Outcome.state (bind_pure_apply a f s)

end Tiered
