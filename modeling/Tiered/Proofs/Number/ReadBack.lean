import Mathlib
import Tiered.Number.Shortest
import Tiered.Proofs.Number.Rounding

/-!
# ReadBack — the shortest decimal reads back

Whatever the search for the fewest digits comes to, the decimal that it gives is rounded to the
double that it was made from (`ofDecimal_shortest`).  Where no grid has a neighbour that reads back
the exact decimal stands in, and its rounding is exact (`ofDecimal_exact`).
-/

namespace Tiered.Number

namespace Magnitude

/-- No double has more units than a mantissa of 53 bits and the greatest shift give. -/
theorem units_lt (m : Magnitude) : m.units < 2 ^ 2098 := by
  have hm : m.mantissa < 2 ^ 53 := m.canonical.1
  have hs : 2 ^ m.shift ≤ 2 ^ 2045 := Nat.pow_le_pow_right Nat.two_pos m.canonical.2.1
  calc m.units = m.mantissa * 2 ^ m.shift := rfl
    _ < 2 ^ 53 * 2 ^ 2045 := Nat.mul_lt_mul_of_lt_of_le hm hs (by positivity)
    _ = 2 ^ 2098 := (pow_add 2 53 2045).symm

theorem eq_zero_of_units {m : Magnitude} (h : m.units = 0) : m = zero := by
  obtain ⟨mantissa, shift, hlt, hle, hcanonical⟩ := m
  obtain rfl : mantissa = 0 := by
    have : 2 ^ shift ≠ 0 := by positivity
    simpa [units, this] using h
  rcases hcanonical with hbig | rfl
  · exact absurd hbig (by decide)
  · rfl

end Magnitude

/-- The exact decimal has at most 309 digits before the point. -/
theorem length_digits_exact_le (m : Magnitude) :
    (Decimal.digits (Shortest.exact m).coefficient).length ≤ 1383 := by
  rw [Decimal.length_digits_le_iff (by decide)]
  have hpow : (2 : Nat) ^ 1024 < 10 ^ 309 := by decide +kernel
  calc m.units * 5 ^ 1074 < 2 ^ 2098 * 5 ^ 1074 :=
        Nat.mul_lt_mul_of_pos_right m.units_lt (by positivity)
    _ = 2 ^ 1024 * 10 ^ 1074 := by
        rw [show 2098 = 1024 + 1074 by rfl, pow_add, mul_assoc, ← mul_pow,
          show 2 * 5 = 10 by rfl]
    _ ≤ 10 ^ 309 * 10 ^ 1074 := Nat.mul_le_mul_right _ hpow.le
    _ = 10 ^ 1383 := (pow_add 10 309 1074).symm

/-- The least double is far above the decimals that count as zero. -/
theorem lt_length_digits_exact {m : Magnitude} (h : m.units ≠ 0) :
    744 < (Decimal.digits (Shortest.exact m).coefficient).length := by
  rw [← Nat.not_le, Decimal.length_digits_le_iff (by decide), Nat.not_lt]
  have hpow : (10 : Nat) ^ 744 ≤ 5 ^ 1074 := by decide +kernel
  exact hpow.trans (Nat.le_mul_of_pos_left _ (Nat.pos_of_ne_zero h))

/-- The exact decimal rounds to the double that it is. -/
theorem ofDecimal_exact (m : Magnitude) :
    Double.ofDecimal false (Shortest.exact m).coefficient (Shortest.exact m).exponent =
      .finite false m := by
  rcases eq_or_ne m.units 0 with h | h
  · obtain rfl := Magnitude.eq_zero_of_units h
    simp [Double.ofDecimal, Shortest.exact, Magnitude.units_zero]
  have hhigh := length_digits_exact_le m
  have hlow := lt_length_digits_exact h
  have he : (Shortest.exact m).exponent = -1074 := rfl
  have hc : (Shortest.exact m).coefficient = m.units * 5 ^ 1074 := by
    rw [Shortest.exact, Nat.pow_eq]
  have hne : (Shortest.exact m).coefficient ≠ 0 := by
    rw [hc]
    exact Nat.mul_ne_zero h (by positivity)
  rw [Double.ofDecimal_eq_ofUnits false hne (by omega) (by omega), ← Double.ofUnits_units false m]
  apply Double.ofUnits_congr false (by positivity) Nat.one_pos
  rw [he, hc, show (-1074 : Int).toNat = 0 by rfl, show (-(-1074 : Int)).toNat = 1074 by rfl,
    unitsPerOne, Nat.pow_eq, pow_zero, Nat.mul_one, Nat.mul_one, mul_assoc, ← mul_pow,
    show 5 * 2 = 10 by rfl]

/-- **The shortest decimal of a double reads back as the double**, whatever its sign. -/
theorem ofDecimal_shortest (negative : Bool) (m : Magnitude) :
    Double.ofDecimal negative m.shortest.coefficient m.shortest.exponent = .finite negative m := by
  apply Double.ofDecimal_signed
  rw [Magnitude.shortest]
  cases h : ((Shortest.shortest? m).map DecimalFraction.trimmed).filter (Shortest.readsBack m) with
  | none => exact ofDecimal_exact m
  | some d =>
      have hd := (Option.filter_eq_some_iff.1 h).2
      simpa [Shortest.readsBack] using hd

end Tiered.Number
