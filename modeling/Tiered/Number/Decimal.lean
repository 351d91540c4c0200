/-!
# Decimal — whole numbers as decimal digits

`digits n` is the decimal text of a natural number and `value` reads digits back, so that
`value (digits n) = n` (`value_digits`).  A whole number is converted to or from text only while it
has at most `maxDigits` digits; a longer one is `overlong`.
-/

namespace Tiered.Number.Decimal

/-- The character of a digit below ten. -/
def digit (d : Nat) : Char := Char.ofNat (48 + d)

/-- The ten decimal digits. -/
def isDigit (c : Char) : Bool := '0' ≤ c && c ≤ '9'

/-- The digits of `n` in front of `acc`. -/
def digitsOnto (n : Nat) (acc : List Char) : List Char :=
  if n < 10 then digit n :: acc else digitsOnto (n / 10) (digit (n % 10) :: acc)

/-- The decimal digits of `n`, the most significant first; zero is one digit. -/
def digits (n : Nat) : List Char := digitsOnto n []

/-- One more digit read behind the number that the digits before it make. -/
def push (n : Nat) (c : Char) : Nat := 10 * n + (c.toNat - 48)

/-- The number that the digits make; no digits make zero. -/
def value (cs : List Char) : Nat := cs.foldl push 0

/-- The longest text, in digits, that is still converted. -/
def maxDigits : Nat := 4300

/-- A number is overlong when its decimal text has more digits than are converted. -/
def overlong (n : Nat) : Bool := Nat.pow 10 maxDigits ≤ n

/-- The text of a whole number, or nothing when it is overlong. -/
def text? (n : Int) : Option (List Char) :=
  if overlong n.natAbs then none
  else some (if n < 0 then '-' :: digits n.natAbs else digits n.natAbs)

/-- The message about an overlong number, with its count of digits where that is known. -/
def overlongMessage (count : Option Nat) : String :=
  "Exceeds the limit (" ++ toString maxDigits ++ " digits) for integer string conversion" ++
    (match count with
      | some n => ": value has " ++ toString n ++ " digits"
      | none => "") ++
    "; use sys.set_int_max_str_digits() to increase the limit"

theorem digit_toNat {d : Nat} (h : d < 10) : (digit d).toNat = 48 + d := by
  have : ∀ m : Fin 10, (digit m.val).toNat = 48 + m.val := by decide
  exact this ⟨d, h⟩

theorem isDigit_digit {d : Nat} (h : d < 10) : isDigit (digit d) = true := by
  have : ∀ m : Fin 10, isDigit (digit m.val) = true := by decide
  exact this ⟨d, h⟩

theorem digitsOnto_eq (n : Nat) (acc : List Char) :
    digitsOnto n acc = digitsOnto n [] ++ acc := by
  induction n using Nat.strongRecOn generalizing acc with
  | _ n ih =>
    by_cases h : n < 10
    · simp [digitsOnto, h]
    · have hlt : n / 10 < n := by omega
      rw [digitsOnto, if_neg h, ih _ hlt]
      conv => rhs; rw [digitsOnto, if_neg h, ih _ hlt]
      simp

/-- The last digit stands behind the digits of the tenth part. -/
theorem digits_of_ten_le {n : Nat} (h : 10 ≤ n) :
    digits n = digits (n / 10) ++ [digit (n % 10)] := by
  rw [digits, digitsOnto, if_neg (by omega), digitsOnto_eq]
  rfl

theorem digits_of_lt_ten {n : Nat} (h : n < 10) : digits n = [digit n] := by
  rw [digits, digitsOnto, if_pos h]

theorem value_digits (n : Nat) : value (digits n) = n := by
  induction n using Nat.strongRecOn with
  | _ n ih =>
    by_cases h : n < 10
    · rw [digits_of_lt_ten h]
      simp [value, push, digit_toNat h]
    · have hlt : n / 10 < n := by omega
      have hd := digit_toNat (Nat.mod_lt n (by decide : 10 > 0))
      have hv := ih _ hlt
      simp only [value] at hv
      rw [digits_of_ten_le (by omega)]
      simp only [value, List.foldl_append, hv, List.foldl_cons, List.foldl_nil, push, hd]
      omega

theorem isDigit_of_mem_digits {n : Nat} {c : Char} (h : c ∈ digits n) : isDigit c = true := by
  induction n using Nat.strongRecOn with
  | _ n ih =>
    by_cases hn : n < 10
    · rw [digits_of_lt_ten hn, List.mem_singleton] at h
      exact h ▸ isDigit_digit hn
    · rw [digits_of_ten_le (by omega), List.mem_append, List.mem_singleton] at h
      rcases h with h | h
      · exact ih _ (by omega) h
      · exact h ▸ isDigit_digit (Nat.mod_lt n (by decide))

theorem digits_ne_nil (n : Nat) : digits n ≠ [] := by
  by_cases h : n < 10
  · simp [digits_of_lt_ten h]
  · simp [digits_of_ten_le (Nat.le_of_not_lt h)]

example : digits 1024 = "1024".toList := by cbv

end Tiered.Number.Decimal
