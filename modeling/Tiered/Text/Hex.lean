/-!
# Hex — numbers as a fixed count of hexadecimal digits

`digits w n` writes the low `w` digits of `n` in lower case and `value?` reads digits of either
case, so that reading what was written gives the number back (`value?_digits`).
-/

namespace Tiered.Text.Hex

/-- The lower-case digit of a number below sixteen. -/
def digit (n : Nat) : Char := if n < 10 then Char.ofNat (48 + n) else Char.ofNat (87 + n)

/-- The number that a digit of either case stands for. -/
def digit? (c : Char) : Option Nat :=
  if '0' ≤ c ∧ c ≤ '9' then some (c.toNat - 48)
  else if 'a' ≤ c ∧ c ≤ 'f' then some (c.toNat - 87)
  else if 'A' ≤ c ∧ c ≤ 'F' then some (c.toNat - 55)
  else none

/-- The low `w` digits of `n`, the most significant first. -/
def digits : Nat → Nat → List Char
  | 0, _ => []
  | w + 1, n => digits w (n / 16) ++ [digit (n % 16)]

/-- One more digit read behind the number that the digits before it make. -/
def push (acc : Option Nat) (c : Char) : Option Nat :=
  acc.bind fun n => (digit? c).map (16 * n + ·)

/-- The number that the digits make, or nothing if one of them is no digit. -/
def value? (cs : List Char) : Option Nat := cs.foldl push (some 0)

theorem digit?_digit {n : Nat} (h : n < 16) : digit? (digit n) = some n := by
  have : ∀ m : Fin 16, digit? (digit m.val) = some m.val := by decide
  exact this ⟨n, h⟩

theorem length_digits (w n : Nat) : (digits w n).length = w := by
  induction w generalizing n with
  | zero => rfl
  | succ w ih => simp [digits, ih]

theorem value?_digits (w n : Nat) : value? (digits w n) = some (n % Nat.pow 16 w) := by
  induction w generalizing n with
  | zero => simp [digits, value?, Nat.mod_one]
  | succ w ih =>
    have hd := digit?_digit (Nat.mod_lt n (by decide : 16 > 0))
    simp only [value?] at ih
    simp only [digits, value?, List.foldl_append, ih, List.foldl_cons, List.foldl_nil, push,
      Option.bind_some, hd, Option.map_some, Option.some.injEq]
    have step : Nat.pow 16 (w + 1) = 16 * Nat.pow 16 w := Nat.pow_succ'
    rw [step, Nat.mod_mul, Nat.add_comm]

end Tiered.Text.Hex
