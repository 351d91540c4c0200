import Mathlib
import Tiered.Number.Decimal

/-!
# Digits — what decimal digits stand for

The digits of a number are as many as its size says, begin with another digit than zero, and are
those of its product with a power of ten without the zeros at the end.  The value of a row of digits
is that of its two parts put together, and has no more digits than the row.
-/

namespace Tiered.Number.Decimal

/-! ### The value of a row of digits -/

theorem foldl_push (n : Nat) (cs : List Char) :
    cs.foldl push n = n * 10 ^ cs.length + value cs := by
  induction cs generalizing n with
  | nil => simp [value]
  | cons c cs ih =>
      simp only [value, List.foldl_cons, List.length_cons]
      rw [ih (push n c), ih (push 0 c)]
      simp only [push]
      ring

/-- The value of two rows of digits, one behind the other. -/
theorem value_append (a b : List Char) :
    value (a ++ b) = value a * 10 ^ b.length + value b := by
  rw [value, List.foldl_append, ← value, foldl_push]

theorem value_replicate_zero (k : Nat) : value (List.replicate k '0') = 0 := by
  induction k with
  | zero => rfl
  | succ k ih =>
      rw [List.replicate_succ', value_append, ih]
      rfl

/-- Digits make a number that is below the power of ten with as many zeros. -/
theorem value_lt_pow {cs : List Char} (h : ∀ c ∈ cs, isDigit c = true) :
    value cs < 10 ^ cs.length := by
  induction cs using List.reverseRecOn with
  | nil => exact Nat.one_pos
  | append_singleton cs c ih =>
      rw [List.forall_mem_append, List.forall_mem_singleton] at h
      have hc : c.toNat - 48 < 10 := by
        have hd := h.2
        simp only [isDigit, Bool.and_eq_true, decide_eq_true_eq, Char.le_def,
          UInt32.le_iff_toNat_le] at hd
        change 48 ≤ c.toNat ∧ c.toNat ≤ 57 at hd
        omega
      have ih := ih h.1
      have hvalue : value (cs ++ [c]) = 10 * value cs + (c.toNat - 48) := by
        simp [value, push]
      rw [hvalue, List.length_append, List.length_singleton, Nat.pow_succ]
      omega

/-- Zeros in front do not count. -/
theorem value_zeros_append (k : Nat) (cs : List Char) :
    value (List.replicate k '0' ++ cs) = value cs := by
  rw [value_append, value_replicate_zero, Nat.zero_mul, Nat.zero_add]

/-- Each zero at the end is a factor of ten. -/
theorem value_append_zeros (cs : List Char) (k : Nat) :
    value (cs ++ List.replicate k '0') = value cs * 10 ^ k := by
  rw [value_append, value_replicate_zero, List.length_replicate, Nat.add_zero]

/-! ### How many digits there are -/

theorem length_digits_pos (n : Nat) : 0 < (digits n).length :=
  List.length_pos_of_ne_nil (digits_ne_nil n)

/-- The count of digits says between which powers of ten a number lies. -/
theorem length_digits_le_iff {n k : Nat} (hk : 0 < k) : (digits n).length ≤ k ↔ n < 10 ^ k := by
  induction k generalizing n with
  | zero => exact absurd hk (Nat.lt_irrefl 0)
  | succ k ih =>
      by_cases hn : n < 10
      · rw [digits_of_lt_ten hn]
        have : 10 ^ 1 ≤ 10 ^ (k + 1) := Nat.pow_le_pow_right (by decide) (by omega)
        simp only [List.length_singleton]
        omega
      · rw [digits_of_ten_le (by omega), List.length_append, List.length_singleton,
          Nat.add_le_add_iff_right]
        rcases Nat.eq_zero_or_pos k with rfl | hk
        · have := length_digits_pos (n / 10)
          omega
        · rw [ih hk, pow_succ]
          omega

/-- Digits of a product with a power of ten: zeros at the end. -/
theorem digits_mul_pow {n : Nat} (hn : n ≠ 0) (k : Nat) :
    digits (n * 10 ^ k) = digits n ++ List.replicate k '0' := by
  induction k with
  | zero => simp
  | succ k ih =>
      have hpos : 0 < n * 10 ^ k := Nat.mul_pos (Nat.pos_of_ne_zero hn) (by positivity)
      have hs : n * 10 ^ (k + 1) = n * 10 ^ k * 10 := by ring
      rw [hs, digits_of_ten_le (by omega), Nat.mul_div_cancel _ (by decide), Nat.mul_mod_left, ih,
        List.append_assoc, List.replicate_succ']
      rfl

/-- Only zero begins with the digit zero. -/
theorem head_digits {n : Nat} (hn : n ≠ 0) : ∃ c cs, digits n = c :: cs ∧ c ≠ '0' := by
  induction n using Nat.strongRecOn with
  | _ n ih =>
      by_cases h : n < 10
      · refine ⟨digit n, [], digits_of_lt_ten h, fun e => hn ?_⟩
        have := digit_toNat h
        rw [e] at this
        simpa using this.symm
      · obtain ⟨c, cs, hd, hc⟩ := ih (n / 10) (by omega) (by omega)
        exact ⟨c, cs ++ [digit (n % 10)], by rw [digits_of_ten_le (by omega), hd]; rfl, hc⟩

/-- The number that digits make has no more digits than they are. -/
theorem length_digits_value {cs : List Char} (hne : cs ≠ []) (h : ∀ c ∈ cs, isDigit c = true) :
    (digits (value cs)).length ≤ cs.length :=
  (length_digits_le_iff (List.length_pos_iff.2 hne)).2 (value_lt_pow h)

/-- A number is overlong when it has more digits than are converted. -/
theorem overlong_iff {n : Nat} : overlong n = true ↔ maxDigits < (digits n).length := by
  have h := length_digits_le_iff (n := n) (k := maxDigits) (by decide)
  rw [overlong, decide_eq_true_eq, Nat.pow_eq, ← Nat.not_lt, ← h, Nat.not_le]

/-- A whole number has a text as long as its digits are not too many. -/
theorem text?_eq_some_iff {n : Int} {cs : List Char} :
    text? n = some cs ↔ (digits n.natAbs).length ≤ maxDigits ∧
      (if n < 0 then '-' :: digits n.natAbs else digits n.natAbs) = cs := by
  rw [text?, ← Nat.not_lt, ← overlong_iff]
  cases overlong n.natAbs <;> simp

end Tiered.Number.Decimal
