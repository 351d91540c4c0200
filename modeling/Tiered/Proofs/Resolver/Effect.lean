import Mathlib
import Tiered.Proofs.Resolver.Revision

/-!
# Effect — what a request does to the tiers

A request leaves the tiers as they are, writes an entry into one of them, or fills the overlay anew,
whatever it comes to (`Request.state_run`).  So what these effects keep, a row of requests keeps
(`asked_induction`): the overlay gets no key twice (`distinct_asked`).
-/

open Tiered.Action

namespace Tiered

namespace Resolver

/-! ### The effect of a request -/

/-- What can become of the tiers. -/
inductive Effect where
  | stay
  | write (key v : Value)
  /-- Empties the overlay and writes entries into it. -/
  | refill (es : Entries)
  /-- Writes into the environment. -/
  | revise (key v : Value)

/-- The resolver behind an effect. -/
def Effect.apply (r : Resolver) : Effect → Resolver
  | stay => r
  | write key v => { r with overlay := r.overlay.put key v }
  | refill es => { r with overlay := Entries.putAll [] es }
  | revise key v => { r with environment := r.environment.put key v }

/-- The entries that an overlay is restored from where it is restored from a value. -/
def restored (v : Value) : Entries :=
  match v with
  | .table es => es
  | v => match v.items? with
    | none => []
    | some items => (Value.pairs 0 items).1

/-- What a request does to the tiers of a resolver. -/
def Request.effect [Validator] (r : Resolver) : Request → Effect
  | set key v => if key.unhashable? = none then .write key v else .stay
  | restore entries => .refill (restored entries)
  | restoreOverlay => .refill []
  | change key path sub v =>
    match (Resolver.get key .notFound r).result.toOption.bind fun found =>
        (Value.addAt sub v path found).toOption with
    | none => .stay
    | some changed => if r.overlay.contains key then .write key changed else .revise key changed
  | _ => .stay

variable {r : Resolver} {q : Request}

theorem state_set (key v : Value) : (set key v r).state =
    if key.unhashable? = none then { r with overlay := r.overlay.put key v } else r := by
  simp only [set, Action.bind_apply, Action.lift_apply, checkKey]
  cases key.unhashable? <;> rfl

theorem state_restoreFrom (v : Value) :
    (restoreFrom v r).state = { r with overlay := Entries.putAll [] (restored v) } := by
  rw [restoreFrom.eq_def, restored.eq_def]
  split
  · rfl
  · simp only [Action.bind_apply, restore_entries]
    cases v.items? with
    | none => rfl
    | some items =>
        simp only [Action.bind_apply, restore_entries]
        rcases Value.pairs 0 items with ⟨es, _ | fault⟩ <;> rfl

variable [Validator]

/-- **What a request leaves is its effect on the tiers.** -/
theorem Request.state_run (q : Request) (r : Resolver) :
    (q.run r).state = (q.effect r).apply r := by
  cases q with
  | set key v =>
      rw [run, bind_pure_state, state_set, effect]
      split_ifs <;> rfl
  | restore entries => rw [run, bind_pure_state, state_restoreFrom, effect, Effect.apply]
  | restoreOverlay => rfl
  | change key path sub v =>
      rw [run, bind_pure_state, change_state, effect]
      cases (Resolver.get key .notFound r).result.toOption.bind fun found =>
          (Value.addAt sub v path found).toOption with
      | none => rfl
      | some changed =>
          dsimp only
          split_ifs <;> rfl
  | _ => exact state_of_reads rfl r

/-! ### What a row of requests keeps -/

/-- **What every request keeps, a row of them keeps.** -/
theorem asked_induction {P : Resolver → Prop} {qs : List Request}
    (step : ∀ q ∈ qs, ∀ r, P r → P (q.run r).state) (h : P r) : P (r.asked qs) := by
  induction qs generalizing r with
  | nil => exact h
  | cons q qs ih =>
      obtain ⟨hq, hqs⟩ := List.forall_mem_cons.1 step
      exact ih hqs (hq r h)

/-- No request gives the overlay a key twice. -/
theorem distinct_run (q : Request) (h : r.overlay.Distinct) : (q.run r).state.overlay.Distinct := by
  rw [q.state_run]
  cases q.effect r with
  | stay => exact h
  | write key v => exact Entries.distinct_put h key v
  | refill es => exact Entries.distinct_putAll List.Pairwise.nil es
  | revise key v => exact h

theorem distinct_asked (h : r.overlay.Distinct) (qs : List Request) :
    (r.asked qs).overlay.Distinct :=
  asked_induction (P := fun r => r.overlay.Distinct) (fun q _ _ => distinct_run q) h

end Resolver

end Tiered
