import Mathlib
import Tiered.Proofs.Keeps
import Tiered.Proofs.Resolver.Outcome
import Tiered.Proofs.Resolver.Request
import Tiered.Proofs.Value.Shape
import Tiered.Template.Render

/-!
# Outcome — what rendering leaves, and what it tells

Rendering looks names up and notes those that are not defined, and it follows the value that it
renders.  What holds of looking up and noting, and of actions behind one another, so holds of
rendering (`Follows.value`): its resolver stays as it is (`keeps_render`), and it tells of nothing
but look-ups (`tells_render`), whatever it comes to.
-/

open Tiered.Action

namespace Tiered.Template

namespace Renderer

/-- A property that holds of the parts of rendering, and of actions behind one another. -/
structure Follows (P : ∀ {α : Type}, Action Renderer α → Prop) : Prop where
  pure : ∀ {α : Type} (x : α), P (pure x : Action Renderer α)
  lift : ∀ {α : Type} (r : Except Failure α), P (lift r : Action Renderer α)
  bind : ∀ {α β : Type} {a : Action Renderer α} {f : α → Action Renderer β},
    P a → (∀ x, P (f x)) → P (a >>= f)
  look : ∀ name : Text, P (onResolver (Resolver.lookup (.text name)))
  note : ∀ name : Text, P (note name)

section Follows

variable {P : ∀ {α : Type}, Action Renderer α → Prop} (h : Follows P)
include h

theorem Follows.piece (p : Piece) : P (piece p) := by
  cases p with
  | single u => exact h.pure _
  | escaped => exact h.pure _
  | placeholder before name behind =>
      refine h.bind (h.look ⟨name⟩) fun found => ?_
      split_ifs
      · exact h.bind (h.lift _) fun _ => h.pure _
      · exact h.bind (h.note _) fun _ => h.pure _

theorem Follows.pieces (ps : List Piece) : P (pieces ps) := by
  induction ps with
  | nil => exact h.pure _
  | cons p ps ih => exact h.bind (h.piece p) fun _ => h.bind ih fun _ => h.pure _

theorem Follows.text (t : Text) : P (text t) := h.bind (h.pieces _) fun _ => h.pure _

theorem Follows.values {vs : List Value} (hvs : ∀ v ∈ vs, P (value v)) : P (values vs) := by
  induction vs with
  | nil => exact h.pure _
  | cons v vs ih =>
      rw [List.forall_mem_cons] at hvs
      exact h.bind hvs.1 fun _ => h.bind (ih hvs.2) fun _ => h.pure _

theorem Follows.entries {es : Entries} (hes : ∀ e ∈ es, P (value e.2)) : P (entries es) := by
  induction es with
  | nil => exact h.pure _
  | cons e es ih =>
      rw [List.forall_mem_cons] at hes
      exact h.bind hes.1 fun _ => h.bind (ih hes.2) fun _ => h.pure _

/-- **What follows the parts of rendering follows the value.** -/
theorem Follows.value (v : Value) : P (value v) := by
  induction v using Value.nested with
  | text t => exact h.bind (h.text t) fun _ => h.pure _
  | list items ih => exact h.bind (h.values ih) fun _ => h.pure _
  | table es ih => exact h.bind (h.entries fun e he => (ih e he).2) fun _ => h.pure _
  | _ => exact h.pure _

end Follows

theorem follows_keeps : Follows (Keeps Renderer.resolver) where
  pure := keeps_pure
  lift := keeps_lift
  bind := Keeps.bind
  look name := Keeps.focus (fun _ _ => rfl) fun r => Resolver.lookup_text_state r name
  note _ := keeps_modify fun r => by split_ifs <;> rfl

/-- **Rendering leaves the resolver as it is.** -/
theorem keeps_render (v : Value) (strict : Bool) : Keeps Renderer.resolver (render v strict) := by
  refine Keeps.bind (keeps_modify ?_) fun _ => (follows_keeps.value v).bind fun rendered =>
    keeps_read.bind fun r => ?_
  · exact fun r => rfl
  · split_ifs
    · exact (keeps_fail _).bind fun _ => keeps_pure _
    · exact keeps_pure _

theorem follows_tells : Follows (Tells [.variableResolved]) where
  pure := reports_pure
  lift := reports_lift
  bind := Reports.bind
  look name := (Resolver.tells_lookup (.text name)).focus
  note _ := reports_modify _

/-- **Rendering tells of look-ups only.** -/
theorem tells_render (v : Value) (strict : Bool) :
    (render v strict).Tells [.variableResolved] := by
  refine Reports.bind (reports_modify _) fun _ => (follows_tells.value v).bind fun rendered =>
    reports_read.bind fun r => ?_
  split_ifs
  · exact (reports_fail _).bind fun _ => reports_pure _
  · exact reports_pure _

end Renderer

theorem render_state (v : Value) (strict : Bool) (r : Resolver) : (render v strict r).state = r :=
  Renderer.keeps_render v strict ⟨r, []⟩

theorem tells_render (v : Value) (strict : Bool) : (render v strict).Tells [.variableResolved] :=
  fun r => Renderer.tells_render v strict ⟨r, []⟩

end Tiered.Template
