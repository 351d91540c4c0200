import Mathlib
import Tiered.Number.Double
import Tiered.Proofs.Number.Digits

/-!
# Rounding — the double nearest to a quotient depends on the quotient alone

* `ofUnits_mul`: a common factor of numerator and denominator changes nothing, so that two spellings
  of one decimal, with zeros moved between coefficient and exponent, are one double
  (`ofDecimal_mul_pow`).
* `ofUnits_units`: a count of units that a double has rounds to that double.
* `ofDecimal_signed`: the sign is passed through.
-/

namespace Tiered.Number

/-! ### The nearest whole number -/

/-- The nearest whole number to a quotient does not change with a common factor. -/
theorem roundHalfEven_mul {k : Nat} (hk : 0 < k) (num den : Nat) :
    roundHalfEven (num * k) (den * k) = roundHalfEven num den := by
  have hmod : 2 * (num * k % (den * k)) = 2 * (num % den) * k := by
    rw [Nat.mul_mod_mul_right, Nat.mul_assoc]
  simp only [roundHalfEven, hmod, Nat.mul_div_mul_right num den hk,
    Nat.mul_lt_mul_right hk]

/-- A whole number is the nearest to itself. -/
theorem roundHalfEven_of_dvd {den : Nat} (hd : 0 < den) (n : Nat) :
    roundHalfEven (n * den) den = n := by
  simp [roundHalfEven, Nat.mul_div_cancel n hd, hd]

namespace Double

/-! ### Rounding a quotient of units -/

theorem shiftFor_mul {k : Nat} (hk : 0 < k) (num den : Nat) :
    shiftFor (num * k) (den * k) = shiftFor num den := by
  rw [shiftFor, Nat.mul_div_mul_right num den hk, shiftFor]

/-- Rounding looks at the quotient of units alone. -/
theorem ofUnits_mul (negative : Bool) {k : Nat} (hk : 0 < k) (num den : Nat) :
    ofUnits negative (num * k) (den * k) = ofUnits negative num den := by
  have hr : roundHalfEven (num * k) (den * k * Nat.pow 2 (shiftFor num den)) =
      roundHalfEven num (den * Nat.pow 2 (shiftFor num den)) := by
    rw [Nat.mul_right_comm, roundHalfEven_mul hk]
  simp only [ofUnits, shiftFor_mul hk, hr]

/-- Equal quotients of units are one double. -/
theorem ofUnits_congr (negative : Bool) {a b a' b' : Nat} (hb : 0 < b) (hb' : 0 < b')
    (h : a * b' = a' * b) : ofUnits negative a b = ofUnits negative a' b' := by
  rw [← ofUnits_mul negative hb' a b, h, Nat.mul_comm b b', ofUnits_mul negative hb]

/-- The shift of a double is the one that rounding chooses for its units. -/
theorem shiftFor_units (m : Magnitude) : shiftFor m.units 1 = m.shift := by
  obtain ⟨mantissa, shift, hlt, -, hcanonical⟩ := m
  simp only [Nat.pow_eq] at hlt hcanonical
  simp only [shiftFor, Magnitude.units, Nat.div_one, Nat.pow_eq]
  rcases hcanonical with hle | rfl
  -- a full mantissa: the shift is what the size leaves over
  · have hlog : (mantissa * 2 ^ shift).log2 = 52 + shift := by
      rw [Nat.log2_eq_iff (Nat.mul_ne_zero (by omega) (by positivity))]
      constructor
      · rw [pow_add]
        exact Nat.mul_le_mul_right _ hle
      · rw [show 52 + shift + 1 = 53 + shift by omega, pow_add]
        exact Nat.mul_lt_mul_of_pos_right hlt (by positivity)
    omega
  -- the least shift
  · have hlog : (mantissa * 2 ^ 0).log2 < 53 := by
      rcases Nat.eq_zero_or_pos mantissa with rfl | hpos
      · simp
      · rw [pow_zero, Nat.mul_one]
        exact (Nat.log2_lt (by omega)).2 hlt
    omega

/-- The units of a double round to the double. -/
theorem ofUnits_units (negative : Bool) (m : Magnitude) :
    ofUnits negative m.units 1 = .finite negative m := by
  have hr : roundHalfEven m.units (1 * Nat.pow 2 m.shift) = m.mantissa := by
    rw [Nat.one_mul, Magnitude.units, Nat.pow_eq, roundHalfEven_of_dvd (Nat.two_pow_pos _)]
  simp only [ofUnits, shiftFor_units, hr]
  rw [dif_pos m.canonical]

/-- The sign goes through the rounding. -/
theorem ofUnits_signed {num den : Nat} {m : Magnitude}
    (h : ofUnits false num den = .finite false m) (negative : Bool) :
    ofUnits negative num den = .finite negative m := by
  simp only [ofUnits] at h ⊢
  split_ifs at h ⊢ with h₁ h₂
  all_goals simp_all

/-! ### Rounding a decimal -/

/-- A decimal that is not settled by its size is rounded as a quotient of units. -/
theorem ofDecimal_eq_ofUnits (negative : Bool) {c : Nat} (hc : c ≠ 0) {e : Int}
    (hhigh : (Decimal.digits c).length + e ≤ 310) (hlow : -330 ≤ (Decimal.digits c).length + e) :
    ofDecimal negative c e =
      ofUnits negative (c * 10 ^ e.toNat * unitsPerOne) (10 ^ (-e).toNat) := by
  simp only [ofDecimal, if_neg hc, if_neg (not_lt.2 hhigh), if_neg (not_lt.2 hlow), Nat.pow_eq]
  split_ifs with he
  · rw [show (-e).toNat = 0 by omega, pow_zero]
  · rw [show e.toNat = 0 by omega, pow_zero, Nat.mul_one]

/-- Zeros can move from the exponent of a decimal to the end of its coefficient. -/
theorem ofDecimal_mul_pow (negative : Bool) (c k : Nat) (e : Int) :
    ofDecimal negative (c * 10 ^ k) (e - k) = ofDecimal negative c e := by
  rcases eq_or_ne c 0 with rfl | hc
  · simp [ofDecimal]
  have hck : c * 10 ^ k ≠ 0 := Nat.mul_ne_zero hc (by positivity)
  have hlen : ((Decimal.digits (c * 10 ^ k)).length : Int) + (e - k) =
      (Decimal.digits c).length + e := by
    rw [Decimal.digits_mul_pow hc, List.length_append, List.length_replicate]
    push_cast
    ring
  -- both sizes are the same, and so is what they settle
  by_cases hhigh : 310 < ((Decimal.digits c).length : Int) + e
  · simp only [ofDecimal, if_neg hc, if_neg hck, hlen, if_pos hhigh]
  by_cases hlow : ((Decimal.digits c).length : Int) + e < -330
  · simp only [ofDecimal, if_neg hc, if_neg hck, hlen, if_neg hhigh, if_pos hlow]
  rw [ofDecimal_eq_ofUnits negative hck (by omega) (by omega),
    ofDecimal_eq_ofUnits negative hc (by omega) (by omega)]
  apply ofUnits_congr negative (by positivity) (by positivity)
  have hexp : k + (e - k).toNat + (-e).toNat = e.toNat + (-(e - k)).toNat := by omega
  calc c * 10 ^ k * 10 ^ (e - k).toNat * unitsPerOne * 10 ^ (-e).toNat
      = c * unitsPerOne * 10 ^ (k + (e - k).toNat + (-e).toNat) := by
        rw [pow_add, pow_add]
        ring
    _ = c * 10 ^ e.toNat * unitsPerOne * 10 ^ (-(e - k)).toNat := by
        rw [hexp, pow_add]
        ring

/-- The sign goes through the reading of a decimal. -/
theorem ofDecimal_signed {c : Nat} {e : Int} {m : Magnitude}
    (h : ofDecimal false c e = .finite false m) (negative : Bool) :
    ofDecimal negative c e = .finite negative m := by
  simp only [ofDecimal] at h ⊢
  split_ifs at h ⊢
  · simpa using h
  · simpa using h
  · exact ofUnits_signed h negative
  · exact ofUnits_signed h negative

end Double

end Tiered.Number
