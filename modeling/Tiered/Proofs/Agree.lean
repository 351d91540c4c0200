import Mathlib
import Tiered.Proofs.Result

/-!
# Agree — outcomes that differ in what they give only

Two results agree if both are right and what they give is related, or both are errors and the errors
are (`Agree`).  Two outcomes are alike if they report the same events, leave related states and
their results agree; actions that make of related states outcomes that are alike are coupled, and
coupled actions follow one another (`Couples.bind`).
-/

namespace Tiered

/-- Both results are right and what they give is related, or both are errors that are. -/
inductive Agree {ε α β : Type} (E : ε → ε → Prop) (Q : α → β → Prop) :
    Except ε α → Except ε β → Prop where
  | ok {a : α} {b : β} (h : Q a b) : Agree E Q (.ok a) (.ok b)
  | error {e f : ε} (h : E e f) : Agree E Q (.error e) (.error f)

namespace Agree

variable {ε α β γ δ : Type} {E : ε → ε → Prop} {Q : α → β → Prop} {P : γ → δ → Prop}
  {x : Except ε α} {y : Except ε β}

theorem mono {Q' : α → β → Prop} (h : Agree E Q x y) (hQ : ∀ a b, Q a b → Q' a b) :
    Agree E Q' x y := by
  cases h with
  | ok h => exact .ok (hQ _ _ h)
  | error h => exact .error h

theorem map {f : α → γ} {g : β → δ} (h : Agree E Q x y) (hfg : ∀ a b, Q a b → P (f a) (g b)) :
    Agree E P (x.map f) (y.map g) := by
  cases h with
  | ok h => exact .ok (hfg _ _ h)
  | error h => exact .error h

theorem bind {f : α → Except ε γ} {g : β → Except ε δ} (h : Agree E Q x y)
    (hfg : ∀ a b, Q a b → Agree E P (f a) (g b)) : Agree E P (x.bind f) (y.bind g) := by
  cases h with
  | ok h => exact hfg _ _ h
  | error h => exact .error h

/-- A result agrees with itself if what it gives is related to itself. -/
theorem refl {x : Except ε α} {Q : α → α → Prop} (hE : ∀ e, E e e) (hQ : ∀ a, x = .ok a → Q a a) :
    Agree E Q x x := by
  cases x with
  | ok a => exact .ok (hQ a rfl)
  | error e => exact .error (hE e)

theorem of_ok {a : α} (h : Agree E Q (.ok a) y) : ∃ b, y = .ok b ∧ Q a b := by
  cases h with
  | ok h => exact ⟨_, rfl, h⟩

theorem of_error {e : ε} (h : Agree E Q (.error e) y) : ∃ f, y = .error f ∧ E e f := by
  cases h with
  | error h => exact ⟨_, rfl, h⟩

theorem eq {x y : Except ε α} (h : Agree Eq Eq x y) : x = y := by
  cases h with
  | ok h => rw [h]
  | error h => rw [h]

end Agree

/-! ### Outcomes and actions -/

/-- The failures are alike to who reports that a snapshot file cannot be used: they are the same
such failure, or neither is one. -/
def Failure.Alike (f f' : Failure) : Prop :=
  ∀ path reason, f = .snapshotFile path reason ↔ f' = .snapshotFile path reason

theorem Failure.Alike.refl (f : Failure) : f.Alike f := fun _ _ => Iff.rfl

section Couples

variable {σ τ ρ α β γ δ : Type} {R : σ → τ → Prop} {Q : α → β → Prop} {P : γ → δ → Prop}

/-- The outcomes report the same events, leave related states, and their results agree. -/
structure Outcome.Alike (R : σ → τ → Prop) (Q : α → β → Prop) (o : Outcome σ α)
    (o' : Outcome τ β) : Prop where
  events : o.events = o'.events
  state : R o.state o'.state
  result : Agree Failure.Alike Q o.result o'.result

namespace Action

/-- On related states the outcomes are alike. -/
def Couples (R : σ → τ → Prop) (Q : α → β → Prop) (a : Action σ α) (a' : Action τ β) : Prop :=
  ∀ s t, R s t → (a s).Alike R Q (a' t)

theorem couples_pure {x : α} {y : β} (h : Q x y) :
    Couples R Q (pure x : Action σ α) (pure y : Action τ β) :=
  fun _ _ hR => ⟨rfl, hR, .ok h⟩

theorem couples_fail {f f' : Failure} (h : f.Alike f') :
    Couples R Q (fail f : Action σ α) (fail f' : Action τ β) :=
  fun _ _ hR => ⟨rfl, hR, .error h⟩

theorem couples_lift {x : Except Failure α} {y : Except Failure β}
    (h : Agree Failure.Alike Q x y) : Couples R Q (lift x : Action σ α) (lift y : Action τ β) :=
  fun _ _ hR => ⟨rfl, hR, h⟩

theorem couples_read : Couples R R (read : Action σ σ) (read : Action τ τ) :=
  fun _ _ hR => ⟨rfl, hR, .ok hR⟩

theorem couples_modify {f : σ → σ} {g : τ → τ} (h : ∀ s t, R s t → R (f s) (g t)) :
    Couples R Eq (modify f : Action σ Unit) (modify g : Action τ Unit) :=
  fun s t hR => ⟨rfl, h s t hR, .ok rfl⟩

theorem couples_emit (event : Log.Event) :
    Couples R Eq (emit event : Action σ Unit) (emit event : Action τ Unit) :=
  fun _ _ hR => ⟨rfl, hR, .ok rfl⟩

/-- **Coupled actions follow one another.** -/
theorem Couples.bind {a : Action σ α} {a' : Action τ β} {f : α → Action σ γ} {f' : β → Action τ δ}
    (ha : Couples R Q a a') (hf : ∀ x y, Q x y → Couples R P (f x) (f' y)) :
    Couples R P (a >>= f) (a' >>= f') := by
  intro s t hR
  obtain ⟨hevents, hstate, hresult⟩ := ha s t hR
  rw [bind_apply, bind_apply]
  revert hresult
  generalize (a s).result = x
  generalize (a' t).result = y
  rintro (hQ | hfailure)
  · obtain ⟨hbehind, hlast, hresult⟩ := hf _ _ hQ _ _ hstate
    exact ⟨congrArg₂ _ hevents hbehind, hlast, hresult⟩
  · exact ⟨hevents, hstate, .error hfailure⟩

/-- What is made of what two outcomes give leaves them alike. -/
theorem alike_bind_pure {a : Action σ α} {a' : Action τ β} {f : α → γ} {g : β → δ} {s : σ} {t : τ}
    (h : (a s).Alike R Q (a' t)) (hfg : ∀ x y, Q x y → P (f x) (g y)) :
    ((a >>= fun x => pure (f x)) s).Alike R P ((a' >>= fun x => pure (g x)) t) := by
  rw [bind_pure_apply, bind_pure_apply]
  exact ⟨h.events, h.state, h.result.map hfg⟩

theorem Couples.mono {a : Action σ α} {a' : Action τ β} {Q' : α → β → Prop} (h : Couples R Q a a')
    (hQ : ∀ x y, Q x y → Q' x y) : Couples R Q' a a' := by
  intro s t hR
  obtain ⟨hevents, hstate, hresult⟩ := h s t hR
  refine ⟨hevents, hstate, ?_⟩
  revert hresult
  generalize (a s).result = x
  generalize (a' t).result = y
  rintro (h | hfailure)
  · exact .ok (hQ _ _ h)
  · exact .error hfailure

/-- The outcomes of coupled actions are coupled as they are. -/
theorem Couples.attempt {a : Action σ α} {a' : Action τ β} (h : Couples R Q a a') :
    Couples R (Agree Failure.Alike Q) (attempt a) (attempt a') := by
  intro s t hR
  obtain ⟨hevents, hstate, hresult⟩ := h s t hR
  exact ⟨hevents, hstate, .ok hresult⟩

/-- Coupled actions on parts are coupled on what the parts belong to. -/
theorem Couples.focus {ρ' : Type} {W : ρ → ρ' → Prop} {get : ρ → σ} {put : σ → ρ → ρ}
    {get' : ρ' → τ} {put' : τ → ρ' → ρ'} {a : Action σ α} {a' : Action τ β}
    (ha : Couples R Q a a') (hget : ∀ s t, W s t → R (get s) (get' t))
    (hput : ∀ s t x y, W s t → R x y → W (put x s) (put' y t)) :
    Couples W Q (Action.focus get put a) (Action.focus get' put' a') := by
  intro s t hW
  obtain ⟨hevents, hstate, hresult⟩ := ha _ _ (hget s t hW)
  exact ⟨hevents, hput _ _ _ _ hW hstate, hresult⟩

end Action

end Couples

end Tiered
