import Mathlib
import Tiered.Proofs.Result
import Tiered.Resolver.Basic

/-!
# Outcome — what the operations on a resolver come to

Writing, restoring and looking up under texts, each as what it gives and leaves.  Looking up leaves
the resolver as it is.
-/

namespace Tiered.Resolver

/-- Only a key that can change in place cannot be looked for. -/
theorem checkKey_eq_ok_iff {key : Value} {u : Unit} :
    checkKey key = .ok u ↔ key.unhashable? = none := by
  rw [checkKey]
  cases key.unhashable? <;> simp

theorem holds_eq (r : Resolver) (key : Value) : r.holds key = (r.find? key).isSome := by
  rw [holds, find?, Entries.contains, Entries.contains]
  cases r.overlay.get? key with
  | some v => rfl
  | none => cases r.environment.get? key <;> rfl

variable (r : Resolver) (key : Text)

theorem set_text (v : Value) : set (.text key) v r =
    ⟨.ok (), { r with overlay := r.overlay.put (.text key) v }, [.variableSet (.text key)]⟩ := rfl

theorem restore_entries (es : Entries) : restore (.entries es) r =
    ⟨.ok (), { r with overlay := Entries.putAll [] es }, []⟩ := rfl

/-- What looking up a text comes to. -/
theorem lookup_text : lookup (.text key) r = match nameOf (.text key) with
    | .error failure => ⟨.error failure, r, []⟩
    | .ok name => ⟨.ok (r.answer (.text key) name), r,
        [.variableResolved (.text key) (r.answer (.text key) name).tier.name]⟩ := by
  simp only [lookup, checkKey, Value.unhashable?_text, Action.bind_apply, Action.lift_apply]
  cases nameOf (.text key) <;> rfl

theorem lookup_text_result : (lookup (.text key) r).result =
    (nameOf (.text key)).map (r.answer (.text key)) := by
  rw [lookup_text]
  cases nameOf (.text key) <;> rfl

theorem lookup_text_state : (lookup (.text key) r).state = r := by
  rw [lookup_text]
  cases nameOf (.text key) <;> rfl

/-- Getting a value is looking it up. -/
theorem get_eq (absent : Value) : get (.text key) absent r =
    ⟨(lookup (.text key) r).result.map fun l => if l.found then l.value else absent,
      (lookup (.text key) r).state, (lookup (.text key) r).events⟩ :=
  Action.bind_pure_apply _ _ r

end Tiered.Resolver
