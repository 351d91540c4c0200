import Mathlib
import Tiered.Proofs.Agree
import Tiered.Proofs.Resolver.Request
import Tiered.Proofs.Value.Alike

/-!
# Alike — resolvers that nothing that is told tells apart

Two resolvers are alike if their tiers are.  Requests that differ in the values that are written
only are alike, and alike requests to alike resolvers tell the same and leave them alike
(`Request.Alike.couples`).
-/

open Tiered.Action

namespace Tiered

/-- Both tiers are alike. -/
structure Resolver.Alike (r r' : Resolver) : Prop where
  overlay : r.overlay.Alike r'.overlay
  environment : r.environment.Alike r'.environment

/-- The same is found in the same tier, and what is found is alike. -/
structure Lookup.Alike (l l' : Lookup) : Prop where
  found : l.found = l'.found
  tier : l.tier = l'.tier
  value : l.found = true → l.value.Alike l'.value

namespace Resolver

variable {r r' : Resolver}

theorem Alike.answer (h : r.Alike r') (key : Value) (name : Text) :
    (r.answer key name).Alike (r'.answer key name) := by
  have hoverlay := h.overlay.get? key
  have henvironment := h.environment.get? key
  rw [Resolver.answer, Resolver.answer, find?, find?]
  revert hoverlay henvironment
  generalize r.overlay.get? key = v
  generalize r'.overlay.get? key = v'
  generalize r.environment.get? key = w
  generalize r'.environment.get? key = w'
  rintro (hv | _) hw
  · exact ⟨rfl, rfl, fun _ => hv⟩
  · rcases hw with hw | _
    · exact ⟨rfl, rfl, fun _ => hw⟩
    · exact ⟨rfl, rfl, fun h => absurd h (by simp)⟩

theorem Alike.holds (h : r.Alike r') (key : Value) : r.holds key = r'.holds key := by
  rw [Resolver.holds, Resolver.holds, h.overlay.contains, h.environment.contains]

/-- A check that does not look at the resolver comes to the same. -/
theorem couples_check {α : Type} (x : Except Failure α) :
    Couples Resolver.Alike Eq (lift x) (lift x) :=
  couples_lift (.refl Failure.Alike.refl fun _ _ => rfl)

/-- **Looking up tells the same.** -/
theorem couples_lookup (key : Value) :
    Couples Resolver.Alike Lookup.Alike (lookup key) (lookup key) := by
  refine (couples_check _).bind fun _ _ _ => (couples_check _).bind ?_
  rintro name _ rfl
  refine couples_read.bind fun r r' h => ?_
  have hanswer := h.answer key name
  refine Couples.bind (Q := Eq) ?_ fun _ _ _ => couples_pure hanswer
  rw [hanswer.tier]
  exact couples_emit _

theorem couples_set (key : Value) {v v' : Value} (hv : v.Alike v') :
    Couples Resolver.Alike Eq (set key v) (set key v') :=
  (couples_check _).bind fun _ _ _ =>
    (couples_modify fun _ _ h => ⟨h.overlay.put rfl hv, h.environment⟩).bind
      fun _ _ _ => couples_emit _

theorem couples_restore (o o' : Origin)
    (ho : ∀ r r', r.Alike r' → (o.entriesIn r).Alike (o'.entriesIn r')) :
    Couples Resolver.Alike Eq (restore o) (restore o') :=
  (couples_modify fun _ _ h => ⟨.nil, h.environment⟩).bind fun _ _ _ =>
    couples_modify fun r r' h => ⟨h.overlay.putAll (ho r r' h), h.environment⟩

theorem couples_contains (key : Value) :
    Couples Resolver.Alike Eq (contains key) (contains key) :=
  (couples_check _).bind fun _ _ _ =>
    couples_read.bind fun _ _ h => couples_pure (h.holds key)

namespace Request

/-- The requests are the same but for the values that they write, which are alike.  A change of a
value in place is none of them, for what it comes to depends on the value. -/
inductive Alike : Request → Request → Prop where
  | set (key : Value) {v v' : Value} (hv : v.Alike v') : Alike (.set key v) (.set key v')
  | restore {es es' : Entries} (hes : es.Alike es') :
    Alike (.restore (.table es)) (.restore (.table es'))
  | restoreOverlay : Alike .restoreOverlay .restoreOverlay
  | lookup (key : Value) : Alike (.lookup key) (.lookup key)
  | get (key absent : Value) : Alike (.get key absent) (.get key absent)
  | contains (key : Value) : Alike (.contains key) (.contains key)
  | has (key : Value) : Alike (.has key) (.has key)
  | keys : Alike .keys .keys
  | copy : Alike .copy .copy

/-- **Alike requests to alike resolvers tell the same**, and leave them alike. -/
theorem Alike.couples {q q' : Request} (h : q.Alike q') :
    Couples Resolver.Alike (fun _ _ => True) q.run q'.run := by
  cases h with
  | set key hv => exact (couples_set key hv).bind fun _ _ _ => couples_pure trivial
  | restore hes =>
      exact (couples_restore (.entries _) (.entries _) fun _ _ _ => hes).bind
        fun _ _ _ => couples_pure trivial
  | restoreOverlay =>
      exact (couples_restore .overlay .overlay fun _ _ h => h.overlay).bind
        fun _ _ _ => couples_pure trivial
  | lookup key => exact (couples_lookup key).bind fun _ _ _ => couples_pure trivial
  | get key absent =>
      have hget : Couples Resolver.Alike (fun _ _ => True) (Resolver.get key absent)
          (Resolver.get key absent) :=
        (couples_lookup key).bind fun _ _ _ => couples_pure trivial
      exact hget.bind fun _ _ _ => couples_pure trivial
  | contains key => exact (couples_contains key).bind fun _ _ _ => couples_pure trivial
  | has key =>
      have hhas : Couples Resolver.Alike Eq (Resolver.has key) (Resolver.has key) := by
        cases key
        case text t => exact couples_contains _
        all_goals exact couples_pure rfl
      exact hhas.bind fun _ _ _ => couples_pure trivial
  | keys => exact couples_read.bind fun _ _ _ => couples_pure trivial
  | copy => exact couples_read.bind fun _ _ _ => couples_pure trivial

end Request

end Resolver

end Tiered
