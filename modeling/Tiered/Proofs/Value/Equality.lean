import Mathlib
import Tiered.Proofs.Number.ReadBack
import Tiered.Proofs.Value.Shape

/-!
# Equality — what is equal to the same key

Numbers are equal across kinds when they are the same number.  The size of a number, in units or as
an infinity, says which (`Value.amount?`, `Value.equals_number_iff`); it is the same for both zeros,
and what is not a number has none.  So a key that is equal to a value is equal to whatever that
value is equal to (`Value.equals_trans`).
-/

namespace Tiered

open Number

/-! ### Sizes of numbers -/

namespace Number

theorem Magnitude.units_injective : Function.Injective Magnitude.units := by
  intro a b h
  have hsame : Double.ofUnits false a.units 1 = Double.ofUnits false b.units 1 := by rw [h]
  rw [Double.ofUnits_units, Double.ofUnits_units] at hsame
  exact (Double.finite.inj hsame).2

/-- The size of a whole number. -/
def wholeAmount (n : Int) : Int ⊕ Bool := .inl (n * unitsPerOne)

theorem wholeAmount_inj {m n : Int} : wholeAmount m = wholeAmount n ↔ m = n := by
  have hunits : (unitsPerOne : Int) ≠ 0 := by
    rw [unitsPerOne, Nat.cast_ne_zero]
    generalize 1074 = e
    exact (Nat.two_pow_pos e).ne'
  rw [wholeAmount, wholeAmount, Sum.inl.injEq, Int.mul_eq_mul_right_iff hunits]

namespace Double

/-- The size of a double: its signed units, or which infinity it is. -/
def amount? : Double → Option (Int ⊕ Bool)
  | nan => none
  | infinite negative => some (.inr negative)
  | finite negative m => some (.inl (if negative then -(m.units : Int) else m.units))

variable {x y : Double}

/-- Only zero has the same units with both signs. -/
theorem equals_finite_iff {n m : Bool} {a b : Magnitude} :
    (finite n a).equals (finite m b) = true ↔ (finite n a).amount? = (finite m b).amount? := by
  have hunits : a.units = b.units ↔ a = b := Magnitude.units_injective.eq_iff
  by_cases hsign : n = m
  · subst hsign
    cases n <;> simp [equals, amount?, hunits]
  · -- the units of both are zero
    have hzero : a.units = 0 ∧ b.units = 0 ↔ a = b ∧ a.mantissa = 0 := by
      constructor
      · rintro ⟨ha, hb⟩
        obtain rfl := Magnitude.eq_zero_of_units ha
        exact ⟨(Magnitude.eq_zero_of_units hb).symm, rfl⟩
      · rintro ⟨rfl, ha⟩
        have hunits : a.units = 0 := by rw [Magnitude.units, ha, Nat.zero_mul]
        exact ⟨hunits, hunits⟩
    cases n <;> cases m <;> simp [equals, amount?, ← hzero] at hsign ⊢

theorem equals_iff_amount :
    x.equals y = true ↔ ∃ size, x.amount? = some size ∧ y.amount? = some size := by
  cases x with
  | nan => simp [equals, amount?]
  | infinite n =>
      cases y with
      | infinite m =>
          rw [equals, beq_iff_eq]
          exact ⟨fun h => ⟨.inr n, rfl, by rw [h, amount?]⟩, by simp +contextual [amount?]⟩
      | _ => simp [equals, amount?]
  | finite n a =>
      cases y with
      | finite m b =>
          rw [equals_finite_iff]
          constructor
          · exact fun h => ⟨_, h, rfl⟩
          · rintro ⟨size, hx, hy⟩
            exact hx.trans hy.symm
      | _ => simp [equals, amount?]

theorem equalsInt_iff_amount {n : Int} :
    x.equalsInt n = true ↔ x.amount? = some (wholeAmount n) := by
  cases x with
  | finite negative m =>
      rw [equalsInt, units?, amount?, wholeAmount, beq_iff_eq, Option.some.injEq, Option.some.injEq,
        Sum.inl.injEq]
  | nan => exact iff_of_false Bool.false_ne_true (Option.some_ne_none _).symm
  | infinite negative =>
      exact iff_of_false Bool.false_ne_true fun h => Sum.inr_ne_inl (Option.some.inj h)

end Double

end Number

namespace Value

/-- The value is a number, or a truth value, which counts as one. -/
def isNumber : Value → Bool
  | bool _ | int _ | float _ => true
  | _ => false

/-- The size of a number of whatever kind. -/
def amount? : Value → Option (Int ⊕ Bool)
  | bool b => some (wholeAmount (ofBool b))
  | int n => some (wholeAmount n)
  | float x => x.amount?
  | _ => Option.none

variable {u v w : Value}

theorem isNumber_of_amount {size : Int ⊕ Bool} (h : v.amount? = some size) :
    v.isNumber = true := by
  cases v <;> first | rfl | exact absurd h (by simp [amount?])

theorem isWhole_iff_amount {n : Int} :
    v.isWhole n = true ↔ v.amount? = some (wholeAmount n) := by
  cases v with
  | bool b => simp [isWhole, amount?, wholeAmount_inj]
  | int m => simp [isWhole, amount?, wholeAmount_inj]
  | float x => exact Double.equalsInt_iff_amount
  | _ => simp [isWhole, amount?]

theorem isDouble_iff_amount {x : Double} :
    v.isDouble x = true ↔ ∃ size, x.amount? = some size ∧ v.amount? = some size := by
  cases v with
  | bool b => simp [isDouble, amount?, Double.equalsInt_iff_amount]
  | int m => simp [isDouble, amount?, Double.equalsInt_iff_amount]
  | float y => exact Double.equals_iff_amount
  | _ => simp [isDouble, amount?]

/-- **A number equals the numbers of its size**, of whatever kind, and nothing else. -/
theorem equals_number_iff (h : v.isNumber = true) :
    v.equals w = true ↔ ∃ size, v.amount? = some size ∧ w.amount? = some size := by
  cases v with
  | bool b => simp [equals, isWhole_iff_amount, amount?]
  | int n => simp [equals, isWhole_iff_amount, amount?]
  | float x => rw [equals, isDouble_iff_amount, amount?]
  | _ => exact absurd h (by simp [isNumber])

/-! ### Keys -/

theorem firstUnhashable?_eq_none_iff {vs : List Value} :
    firstUnhashable? vs = Option.none ↔ ∀ v ∈ vs, v.unhashable? = Option.none := by
  induction vs with
  | nil => simp [firstUnhashable?]
  | cons v vs ih =>
      rw [firstUnhashable?, List.forall_mem_cons, ← ih]
      cases v.unhashable? <;> simp

theorem equalItems_trans {us vs ws : List Value}
    (h : ∀ u ∈ us, ∀ v w, u.equals v = true → v.equals w = true → u.equals w = true)
    (huv : equalItems us vs = true) (hvw : equalItems vs ws = true) :
    equalItems us ws = true := by
  induction us generalizing vs ws with
  | nil =>
      cases vs with
      | nil => exact hvw
      | cons v vs => exact absurd huv (by simp [equalItems])
  | cons u us ih =>
      obtain ⟨hu, hus⟩ := List.forall_mem_cons.1 h
      cases vs with
      | nil => exact absurd huv (by simp [equalItems])
      | cons v vs =>
          cases ws with
          | nil => exact absurd hvw (by simp [equalItems])
          | cons w ws =>
              rw [equalItems, Bool.and_eq_true] at huv hvw ⊢
              exact ⟨hu v w huv.1 hvw.1, ih hus huv.2 hvw.2⟩

/-- What is equal to a number is one. -/
theorem equals_trans_number (hu : u.isNumber = true) (huv : u.equals v = true)
    (hvw : v.equals w = true) : u.equals w = true := by
  obtain ⟨size, hsize, hv⟩ := (equals_number_iff hu).1 huv
  obtain ⟨size', hv', hw⟩ := (equals_number_iff (isNumber_of_amount hv)).1 hvw
  obtain rfl := Option.some.inj (hv.symm.trans hv')
  exact (equals_number_iff hu).2 ⟨size, hsize, hw⟩

/-- **A key that is equal to a value is equal to what that value is equal to.** -/
theorem equals_trans (hu : u.unhashable? = Option.none) (huv : u.equals v = true)
    (hvw : v.equals w = true) : u.equals w = true := by
  induction u using nested generalizing v w with
  | bool b => exact equals_trans_number rfl huv hvw
  | int n => exact equals_trans_number rfl huv hvw
  | float x => exact equals_trans_number rfl huv hvw
  | text t =>
      obtain rfl := equals_text_iff.1 huv
      exact hvw
  | tuple items ih =>
      rw [unhashable?, firstUnhashable?_eq_none_iff] at hu
      cases v with
      | tuple others =>
          cases w with
          | tuple rest =>
              rw [equals] at huv hvw ⊢
              exact equalItems_trans (fun u hmem v w => ih u hmem (hu u hmem)) huv hvw
          | _ => exact absurd hvw (by simp [equals])
      | _ => exact absurd huv (by simp [equals])
  | octets bytes =>
      cases v with
      | octets others =>
          obtain rfl : bytes = others := by simpa [equals] using huv
          exact hvw
      | _ => exact absurd huv (by simp [equals])
  | foreign thing =>
      cases v with
      | foreign other =>
          obtain rfl : thing = other := by simpa [equals] using huv
          exact hvw
      | _ => exact absurd huv (by simp [equals])
  | none => cases v <;> first | exact hvw | exact absurd huv (by simp [equals])
  | notFound => cases v <;> first | exact hvw | exact absurd huv (by simp [equals])
  | list items => exact absurd hu (by simp [unhashable?])
  | set members => exact absurd hu (by simp [unhashable?])
  | table entries => exact absurd hu (by simp [unhashable?])

end Value

end Tiered
