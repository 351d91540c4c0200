import Mathlib
import Tiered.Proofs.Resolver.Alike
import Tiered.Proofs.Store.Stray
import Tiered.Proofs.Value.Shape

/-!
# Alike — rendering from resolvers that are alike

Which names a rendering looks up depends on what is rendered, and whether it fails on the names that
are not defined and on values without a text.  So from resolvers that are alike the same is told
(`couples_render`).
-/

open Tiered.Action

namespace Tiered

namespace Template

theorem stray_valueText {v : Value} {failure : Failure} (h : valueText v = .error failure) :
    failure.Stray := by
  rw [valueText.eq_def] at h
  split at h
  -- a whole number without digits enough, and a value that JSON has no text for
  case h_4 =>
    split at h
    · exact absurd h (by simp)
    · obtain rfl := Except.error.inj h
      simp [Failure.Stray]
  case h_6 =>
    split at h
    · exact absurd h (by simp)
    · obtain rfl := Except.error.inj h
      exact Store.stray_ofRefusal _
  all_goals exact absurd h (by simp)

/-- Values that are alike both have a text, or neither has. -/
theorem agree_valueText {v v' : Value} (h : v.Alike v') :
    Agree Failure.Alike (fun _ _ => True) (valueText v) (valueText v') := by
  have hrenderable := h.renderable
  cases ht : valueText v with
  | ok t => cases ht' : valueText v' with
    | ok t' => exact .ok trivial
    | error failure => simp [ht, ht', Except.isOk, Except.toBool] at hrenderable
  | error failure => cases ht' : valueText v' with
    | ok t' => simp [ht, ht', Except.isOk, Except.toBool] at hrenderable
    | error failure' => exact .error ((stray_valueText ht).alike (stray_valueText ht'))

namespace Renderer

/-- The resolvers are alike, and the same names were not found. -/
structure Alike (r r' : Renderer) : Prop where
  resolver : r.resolver.Alike r'.resolver
  undefined : r.undefined = r'.undefined

/-- On renderers that are alike the actions tell the same, whatever they give, and leave renderers
that are alike. -/
def Blind {α β : Type} (a : Action Renderer α) (b : Action Renderer β) : Prop :=
  Couples Renderer.Alike (fun _ _ => True) a b

theorem blind_pure {α β : Type} (x : α) (y : β) : Blind (pure x) (pure y) := couples_pure trivial

theorem Blind.bind {α β γ δ : Type} {a : Action Renderer α} {b : Action Renderer β}
    {f : α → Action Renderer γ} {g : β → Action Renderer δ} (h : Blind a b)
    (hf : ∀ x y, Blind (f x) (g y)) : Blind (a >>= f) (b >>= g) :=
  Couples.bind h fun x y _ => hf x y

theorem blind_note (name : Text) : Blind (note name) (note name) := by
  refine Couples.mono (couples_modify fun r r' h => ?_) fun _ _ _ => trivial
  rw [← h.undefined]
  split_ifs
  · exact h
  · exact ⟨h.resolver, by rw [h.undefined]⟩

theorem blind_piece (p : Piece) : Blind (piece p) (piece p) := by
  cases p with
  | single u => exact blind_pure _ _
  | escaped => exact blind_pure _ _
  | placeholder before name behind =>
      refine Couples.bind ((Resolver.couples_lookup _).focus (fun _ _ h => h.resolver)
        fun _ _ _ _ h hr => ⟨hr, h.undefined⟩) fun l l' hl => ?_
      rw [← hl.found]
      split_ifs with hf
      · exact Blind.bind (couples_lift (agree_valueText (hl.value hf))) fun _ _ => blind_pure _ _
      · exact (blind_note ⟨name⟩).bind fun _ _ => blind_pure _ _

theorem blind_pieces (ps : List Piece) : Blind (pieces ps) (pieces ps) := by
  induction ps with
  | nil => exact blind_pure _ _
  | cons p ps ih => exact (blind_piece p).bind fun _ _ => ih.bind fun _ _ => blind_pure _ _

theorem blind_text (t : Text) : Blind (text t) (text t) :=
  (blind_pieces _).bind fun _ _ => blind_pure _ _

theorem blind_values {vs : List Value} (h : ∀ v ∈ vs, Blind (value v) (value v)) :
    Blind (values vs) (values vs) := by
  induction vs with
  | nil => exact blind_pure _ _
  | cons v vs ih =>
      rw [List.forall_mem_cons] at h
      exact h.1.bind fun _ _ => (ih h.2).bind fun _ _ => blind_pure _ _

theorem blind_entries {es : Entries} (h : ∀ e ∈ es, Blind (value e.2) (value e.2)) :
    Blind (entries es) (entries es) := by
  induction es with
  | nil => exact blind_pure _ _
  | cons e es ih =>
      rw [List.forall_mem_cons] at h
      exact h.1.bind fun _ _ => (ih h.2).bind fun _ _ => blind_pure _ _

theorem blind_value (v : Value) : Blind (value v) (value v) := by
  induction v using Value.nested with
  | text t => exact (blind_text t).bind fun _ _ => blind_pure _ _
  | list items ih => exact (blind_values ih).bind fun _ _ => blind_pure _ _
  | table es ih => exact (blind_entries fun e he => (ih e he).2).bind fun _ _ => blind_pure _ _
  | _ => exact blind_pure _ _

theorem blind_render (v : Value) (strict : Bool) : Blind (render v strict) (render v strict) := by
  refine Couples.bind (couples_modify fun r r' h => ⟨h.resolver, rfl⟩) fun _ _ _ =>
    (blind_value v).bind fun rendered rendered' => couples_read.bind fun r r' h => ?_
  simp only [missing, ← h.undefined]
  split_ifs
  · exact Blind.bind (couples_fail (.refl _)) fun _ _ => blind_pure _ _
  · exact blind_pure _ _

end Renderer

/-- **Rendering from resolvers that are alike tells the same**, and leaves them alike. -/
theorem couples_render (v : Value) (strict : Bool) :
    Couples Resolver.Alike (fun _ _ => True) (render v strict) (render v strict) := by
  intro r r' h
  obtain ⟨hevents, hstate, hresult⟩ := Renderer.blind_render v strict ⟨r, []⟩ ⟨r', []⟩ ⟨h, rfl⟩
  exact ⟨hevents, hstate.resolver, hresult⟩

end Template

end Tiered
