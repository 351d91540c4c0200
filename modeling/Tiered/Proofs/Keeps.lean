import Mathlib
import Tiered.Action

/-!
# Keeps — what an action leaves alone, and what it reports

An action keeps what a view shows of the state when it shows the same afterwards, whatever the
action comes to: a failure leaves it as it is, too.  In the same way it leads on in an order of
states, and it reports nothing but events of a kind.  Actions that do so follow one another
(`Keeps.bind`, `Leads.bind`, `Reports.bind`).
-/

namespace Tiered.Action

variable {σ τ α β γ : Type}

/-- Whatever the action comes to, the view shows the same of the state afterwards. -/
def Keeps (view : σ → γ) (a : Action σ α) : Prop := ∀ s, view (a s).state = view s

section Keeps

variable {view : σ → γ}

theorem keeps_pure (x : α) : Keeps view (pure x : Action σ α) := fun _ => rfl

theorem keeps_fail (failure : Failure) : Keeps view (fail failure : Action σ α) := fun _ => rfl

theorem keeps_lift (r : Except Failure α) : Keeps view (lift r : Action σ α) := fun _ => rfl

theorem keeps_emit (event : Log.Event) : Keeps view (emit event : Action σ Unit) := fun _ => rfl

theorem keeps_read : Keeps view (read : Action σ σ) := fun _ => rfl

theorem keeps_modify {f : σ → σ} (h : ∀ s, view (f s) = view s) : Keeps view (modify f) := h

/-- **What keeps a view goes on with what keeps it.** -/
theorem Keeps.bind {a : Action σ α} {f : α → Action σ β} (ha : Keeps view a)
    (hf : ∀ x, Keeps view (f x)) : Keeps view (a >>= f) := by
  intro s
  rw [bind_apply]
  cases (a s).result with
  | error failure => exact ha s
  | ok x => exact (hf x _).trans (ha s)

/-- An action on a part that keeps the part keeps it. -/
theorem Keeps.focus {get : σ → τ} {put : τ → σ → σ} (h : ∀ t s, get (put t s) = t)
    {a : Action τ α} (ha : Keeps id a) : Keeps get (focus get put a) :=
  fun s => (h _ s).trans (ha (get s))

end Keeps

/-- Whatever the action comes to, the state that it leaves lies behind the one that it took. -/
def Leads (R : σ → σ → Prop) (a : Action σ α) : Prop := ∀ s, R s (a s).state

section Leads

variable {R : σ → σ → Prop} [IsPreorder σ R]

theorem leads_pure (x : α) : Leads R (pure x : Action σ α) := fun s => refl_of R s

theorem leads_fail (failure : Failure) : Leads R (fail failure : Action σ α) := fun s => refl_of R s

theorem leads_read : Leads R (read : Action σ σ) := fun s => refl_of R s

theorem leads_emit (event : Log.Event) : Leads R (emit event : Action σ Unit) :=
  fun s => refl_of R s

theorem leads_lift (r : Except Failure α) : Leads R (lift r : Action σ α) := fun s => refl_of R s

/-- **What leads on goes on with what leads on.** -/
theorem Leads.bind {a : Action σ α} {f : α → Action σ β} (ha : Leads R a)
    (hf : ∀ x, Leads R (f x)) : Leads R (a >>= f) := by
  intro s
  rw [bind_apply]
  cases (a s).result with
  | error failure => exact ha s
  | ok x => exact trans_of R (ha s) (hf x _)

omit [IsPreorder σ R] in
theorem Leads.attempt {a : Action σ α} (ha : Leads R a) : Leads R (attempt a) := ha

end Leads

/-- Whatever the action comes to, its events are of a kind. -/
def Reports (P : Log.Event → Prop) (a : Action σ α) : Prop := ∀ s, ∀ e ∈ (a s).events, P e

section Reports

variable {P Q : Log.Event → Prop}

theorem reports_pure (x : α) : Reports P (pure x : Action σ α) := fun _ _ => by simp

theorem reports_fail (failure : Failure) : Reports P (fail failure : Action σ α) := fun _ _ => by
  simp

theorem reports_lift (r : Except Failure α) : Reports P (lift r : Action σ α) := fun _ _ => by simp

theorem reports_read : Reports P (read : Action σ σ) := fun _ _ => by simp

theorem reports_modify (f : σ → σ) : Reports P (modify f) := fun _ _ => by simp

theorem reports_emit {event : Log.Event} (h : P event) :
    Reports P (emit event : Action σ Unit) :=
  fun _ => List.forall_mem_singleton.2 h

theorem reports_emitAll {events : List Log.Event} (h : ∀ e ∈ events, P e) :
    Reports P (emitAll events : Action σ Unit) :=
  fun _ => h

/-- **What reports events of a kind goes on with what reports such events.** -/
theorem Reports.bind {a : Action σ α} {f : α → Action σ β} (ha : Reports P a)
    (hf : ∀ x, Reports P (f x)) : Reports P (a >>= f) := by
  intro s
  have hfirst := ha s
  rw [bind_apply]
  cases (a s).result with
  | error failure => exact hfirst
  | ok x => exact List.forall_mem_append.2 ⟨hfirst, hf x _⟩

theorem Reports.focus {get : σ → τ} {put : τ → σ → σ} {a : Action τ α} (ha : Reports P a) :
    Reports P (focus get put a) :=
  fun s => ha (get s)

theorem Reports.attempt {a : Action σ α} (ha : Reports P a) : Reports P (attempt a) := ha

theorem Reports.mono {a : Action σ α} (ha : Reports P a) (h : ∀ e, P e → Q e) : Reports Q a :=
  fun s e he => h e (ha s e he)

/-- The event has one of these topics. -/
def About (topics : List Log.Topic) (e : Log.Event) : Prop := e.topic ∈ topics

/-- Whatever the action comes to, its events have some of these topics. -/
def Tells (topics : List Log.Topic) (a : Action σ α) : Prop := Reports (About topics) a

theorem Tells.mono {topics more : List Log.Topic} {a : Action σ α} (h : Tells topics a)
    (hsub : topics ⊆ more) : Tells more a :=
  Reports.mono h fun _ he => hsub he

end Reports

end Tiered.Action
