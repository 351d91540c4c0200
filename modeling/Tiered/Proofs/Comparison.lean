import Mathlib
import Tiered.Comparison
import Tiered.Proofs.Value.Display

/-!
# Comparison — what requiring equality comes to

Where two values are equal, requiring it does nothing.  Where they differ, the message is reported
once, and then the failure is put into words, which shows both values.  So the failure carries the
values and the message exactly when both values have a display, and otherwise it is the failure to
show a number that is too long (`requireEqual_outcome`).
-/

namespace Tiered.Comparison

open Log (Event)

variable {σ : Type} {expected actual : Value} {message : Option Text}

/-- The message as it is given: a text or nothing. -/
def context (message : Option Text) : Value := (message.map Value.text).getD .none

/-- Values are compared under every message. -/
theorem of_context (expected actual : Value) (message : Option Text) :
    of expected actual (context message) =
      .ok ⟨expected.equals actual, expected, actual, message⟩ := by
  cases message <;> rfl

/-! ### The words about two values that differ -/

theorem hasWords_context : Failure.hasWords (context message) = true := by
  cases message <;> rfl

/-- A value can stand in a message exactly when it is displayable. -/
theorem hasWords_iff {v : Value} : Failure.hasWords v = true ↔ v.Displayable := by
  cases v with
  | text t => exact ⟨fun _ => trivial, fun _ => rfl⟩
  | _ => simp only [Failure.hasWords, Value.isSome_display?_iff]

theorem ofComparison_eq (expected actual : Value) (message : Option Text) :
    Failure.ofComparison expected actual (context message) =
      if Failure.hasWords expected && Failure.hasWords actual then
        .unequal expected actual (context message)
      else .overlong none := by
  have hall : ([expected, actual] ++ if (context message).truthy then [context message] else
      []).all Failure.hasWords = (Failure.hasWords expected && Failure.hasWords actual) := by
    -- the message has words, whether or not it is shown
    cases (context message).truthy <;> simp [hasWords_context]
  rw [Failure.ofComparison, hall]

/-- The failure carries what was compared as long as both values can be shown. -/
theorem ofComparison_of_displayable (h : expected.Displayable ∧ actual.Displayable) :
    Failure.ofComparison expected actual (context message) =
      .unequal expected actual (context message) := by
  rw [ofComparison_eq, hasWords_iff.2 h.1, hasWords_iff.2 h.2]
  rfl

theorem ofComparison_of_not_displayable (h : ¬ (expected.Displayable ∧ actual.Displayable)) :
    Failure.ofComparison expected actual (context message) = .overlong none := by
  rw [← hasWords_iff, ← hasWords_iff, ← Bool.and_eq_true] at h
  rw [ofComparison_eq, if_neg h]

/-! ### Requiring equality -/

theorem requireEqual_of_equals (h : expected.equals actual = true) (s : σ) :
    requireEqual expected actual (context message) s = ⟨.ok (), s, []⟩ := by
  simp [requireEqual, of_context, Action.bind_apply, h]

theorem requireEqual_of_differ (h : expected.equals actual = false) (s : σ) :
    requireEqual expected actual (context message) s =
      ⟨.error (.ofComparison expected actual (context message)), s,
        [Event.assertionFailed (context message)]⟩ := by
  simp [requireEqual, of_context, Action.bind_apply, h]

/-- **Requiring equality fails exactly on difference.**  The comparison keeps both values and the
message.  Where it passes, nothing is reported and nothing fails.  Where it does not, the message is
reported once if anybody hears it, and the failure carries both values and the message, provided
that no whole number in either of them, at any depth, is too long to be shown; otherwise that is the
failure.  The state stays as it is. -/
theorem requireEqual_outcome (expected actual : Value) (message : Option Text) (heard : Bool)
    (s : σ) :
    of expected actual (context message) =
        .ok ⟨expected.equals actual, expected, actual, message⟩ ∧
      (expected.equals actual = true →
        Action.heardIf heard (requireEqual expected actual (context message)) s =
          ⟨.ok (), s, []⟩) ∧
      (expected.equals actual = false →
        let outcome := Action.heardIf heard (requireEqual expected actual (context message)) s
        outcome.state = s ∧
          outcome.events = (if heard then [Event.assertionFailed (context message)] else []) ∧
          (expected.Displayable ∧ actual.Displayable →
            outcome.result = .error (.unequal expected actual (context message))) ∧
          (¬ (expected.Displayable ∧ actual.Displayable) →
            outcome.result = .error (.overlong none))) := by
  refine ⟨of_context expected actual message, fun hequal => ?_, fun hdiffer => ?_⟩
  · simp only [Action.heardIf, requireEqual_of_equals hequal, ite_self]
  · simp only [Action.heardIf, requireEqual_of_differ hdiffer, Except.error.injEq, true_and]
    exact ⟨ofComparison_of_displayable, ofComparison_of_not_displayable⟩

/-- A list and a tuple of the same items differ; the message is reported and the failure carries
both. -/
theorem requireEqual_outcome_tuple :
    let items := [Value.set [.int 1], .none]
    let outcome := Action.heardIf true
      (requireEqual (.list items) (.tuple items) (context (some "status"))) ()
    outcome.result = .error (.unequal (.list items) (.tuple items) (.text "status")) ∧
      outcome.events = [Event.assertionFailed (.text "status")] := by
  intro items outcome
  have hone : (Value.int 1).Displayable := (Number.Decimal.length_digits_le_iff (by decide)).2
    (Nat.one_lt_pow (by decide) (by decide))
  have hitems : Value.DisplayableItems items := ⟨⟨hone, trivial⟩, trivial, trivial⟩
  obtain ⟨-, hevents, hresult, -⟩ := (requireEqual_outcome (.list items) (.tuple items)
    (some "status") true ()).2.2 (by decide +kernel)
  exact ⟨hresult ⟨hitems, hitems⟩, hevents⟩

/-- A number that is too long differs from nothing, but what fails is showing it. -/
theorem requireEqual_overlong :
    of (.int (10 ^ 5000)) .none (context none) = .ok ⟨false, .int (10 ^ 5000), .none, none⟩ ∧
      requireEqual (.int (10 ^ 5000)) .none (context none) () =
        ⟨.error (.overlong none), (), [Event.assertionFailed .none]⟩ := by
  have hdiffer (n : Int) : (Value.int n).equals .none = false := by
    simp [Value.equals, Value.isWhole]
  have hlong : ¬ (Value.int (10 ^ 5000)).Displayable := Value.not_displayable_pow (by decide)
  rw [of_context, requireEqual_of_differ (hdiffer _), hdiffer,
    ofComparison_of_not_displayable fun h => hlong h.1]
  exact ⟨rfl, rfl⟩

end Tiered.Comparison
