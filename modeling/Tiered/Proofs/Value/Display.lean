import Mathlib
import Tiered.Proofs.Number.Digits
import Tiered.Proofs.Value.Shape
import Tiered.Value.Display

/-!
# Display — the values that can be shown

Every kind of value has a display, and a container has one when all that stands in it does.  So only
a whole number can be in the way: a value is shown exactly when no whole number in it, at any depth
and among its keys too, is too long for a text (`isSome_display?_iff`).
-/

namespace Tiered.Value

mutual

/-- At every depth of the value, its keys and the members of its sets among it, whole numbers have
no more digits than are converted. -/
def Displayable : Value → Prop
  | int n => (Number.Decimal.digits n.natAbs).length ≤ Number.Decimal.maxDigits
  | list items => DisplayableItems items
  | tuple items => DisplayableItems items
  | set members => DisplayableItems members
  | table entries => DisplayableEntries entries
  | _ => True

/-- The values are displayable. -/
def DisplayableItems : List Value → Prop
  | [] => True
  | v :: vs => Displayable v ∧ DisplayableItems vs

/-- The keys and values of the entries are displayable. -/
def DisplayableEntries : List (Value × Value) → Prop
  | [] => True
  | (k, v) :: es => (Displayable k ∧ Displayable v) ∧ DisplayableEntries es

end

theorem displayableItems_iff {vs : List Value} :
    DisplayableItems vs ↔ ∀ v ∈ vs, Displayable v := by
  induction vs with
  | nil => simp [DisplayableItems]
  | cons v vs ih => simp [DisplayableItems, ih]

theorem displayableEntries_iff {es : Entries} :
    DisplayableEntries es ↔ ∀ e ∈ es, Displayable e.1 ∧ Displayable e.2 := by
  induction es with
  | nil => simp [DisplayableEntries]
  | cons e es ih => simp only [DisplayableEntries, ih, List.forall_mem_cons]

/-! ### What has a display -/

theorem isSome_bind_map {α β γ : Type} {x : Option α} {y : Option β} {f : α → β → γ} :
    (x.bind fun a => y.map (f a)).isSome = (x.isSome && y.isSome) := by
  cases x <;> simp

theorem isSome_displayItems?_iff {vs : List Value} :
    (displayItems? vs).isSome = true ↔ ∀ v ∈ vs, (display? v).isSome = true := by
  induction vs with
  | nil => simp [displayItems?]
  | cons v vs ih =>
      rw [displayItems?, isSome_bind_map, Bool.and_eq_true, ih, List.forall_mem_cons]

theorem isSome_displayEntries?_iff {es : Entries} : (displayEntries? es).isSome = true ↔
    ∀ e ∈ es, (display? e.1).isSome = true ∧ (display? e.2).isSome = true := by
  induction es with
  | nil => simp [displayEntries?]
  | cons e es ih =>
      obtain ⟨k, v⟩ := e
      rw [displayEntries?, List.forall_mem_cons, ← ih]
      cases display? k <;> simp [isSome_bind_map]

theorem isSome_text?_iff_length {n : Int} : (Number.Decimal.text? n).isSome = true ↔
    (Number.Decimal.digits n.natAbs).length ≤ Number.Decimal.maxDigits := by
  rw [Option.isSome_iff_exists]
  simp only [Number.Decimal.text?_eq_some_iff]
  exact ⟨fun h => h.choose_spec.1, fun h => ⟨_, h, rfl⟩⟩

/-- **A value is shown exactly when no whole number in it is too long.** -/
theorem isSome_display?_iff {v : Value} : v.display?.isSome = true ↔ v.Displayable := by
  induction v using Value.nested with
  | int n => rw [display?, Displayable, isSome_text?_iff_length]
  | list items ih | tuple items ih | set items ih =>
      rw [display?, Option.isSome_map, isSome_displayItems?_iff, Displayable,
        displayableItems_iff]
      exact forall₂_congr ih
  | table entries ih =>
      rw [display?, Option.isSome_map, isSome_displayEntries?_iff, Displayable,
        displayableEntries_iff]
      exact forall₂_congr fun e he => and_congr (ih e he).1 (ih e he).2
  | _ => simp [display?, Displayable]

/-- A power of ten is too long once it has as many zeros as digits are converted. -/
theorem not_displayable_pow {n : Nat} (h : Number.Decimal.maxDigits ≤ n) :
    ¬ (int (10 ^ n)).Displayable := by
  rw [Displayable, Number.Decimal.length_digits_le_iff (by decide), Int.natAbs_pow, Nat.not_lt]
  exact Nat.pow_le_pow_right (by decide) h

end Tiered.Value
