import Tiered.Number.Decimal

/-!
# Double — binary floating-point numbers as exact data

A finite double is a sign and a whole count of units of `2 ^ (-1074)`, held as a mantissa of at
most 53 bits and a left shift.  The form is unique, so equal data are equal numbers; the one
exception is zero, which has two signs.  Reading a decimal rounds its exact value to the nearest
double, a tie to the even mantissa, in whole-number arithmetic only.
-/

namespace Tiered.Number

/-- The count of units in a finite double: `mantissa * 2 ^ shift`, in the one form that a 64-bit
word has for it. -/
structure Magnitude where
  mantissa : Nat
  shift : Nat
  canonical : mantissa < Nat.pow 2 53 ∧ shift ≤ 2045 ∧ (Nat.pow 2 52 ≤ mantissa ∨ shift = 0)
  deriving DecidableEq, Repr

/-- A double: a finite number, an infinity, or the one value that is not a number. -/
inductive Double where
  | nan
  | infinite (negative : Bool)
  | finite (negative : Bool) (size : Magnitude)
  deriving DecidableEq, Repr

namespace Magnitude

/-- No units at all. -/
def zero : Magnitude := ⟨0, 0, by decide⟩

/-- How many units of `2 ^ (-1074)` there are. -/
def units (m : Magnitude) : Nat := m.mantissa * Nat.pow 2 m.shift

theorem units_zero : zero.units = 0 := by simp [units, zero]

end Magnitude

/-- How many units of `2 ^ (-1074)` make one. -/
def unitsPerOne : Nat := Nat.pow 2 1074

/-- The quotient rounded to the nearest whole number, a tie to the even one. -/
def roundHalfEven (num den : Nat) : Nat :=
  let q := num / den
  let twice := 2 * (num % den)
  if twice < den then q else if den < twice then q + 1 else q + q % 2

namespace Double

/-- Plus zero. -/
def zero : Double := finite false Magnitude.zero

/-- The shift that leaves the whole part of `num / den` at most 53 bits. -/
def shiftFor (num den : Nat) : Nat := (num / den).log2 - 52

/-- The double nearest to `num / den` units; beyond the largest one it is an infinity. -/
def ofUnits (negative : Bool) (num den : Nat) : Double :=
  let s := shiftFor num den
  let r := roundHalfEven num (den * Nat.pow 2 s)
  if h : r < Nat.pow 2 53 ∧ s ≤ 2045 ∧ (Nat.pow 2 52 ≤ r ∨ s = 0) then finite negative ⟨r, s, h⟩
  else if h : s + 1 ≤ 2045 then
    finite negative ⟨Nat.pow 2 52, s + 1, by decide, h, .inl (Nat.le_refl _)⟩
  else infinite negative

/-- The double nearest to `coefficient * 10 ^ exponent`.  What lies far outside the range of
doubles is settled by its count of digits alone. -/
def ofDecimal (negative : Bool) (coefficient : Nat) (exponent : Int) : Double :=
  if coefficient = 0 then finite negative Magnitude.zero
  else
    let leading := (Decimal.digits coefficient).length + exponent
    if 310 < leading then infinite negative
    else if leading < -330 then finite negative Magnitude.zero
    else if 0 ≤ exponent then
      ofUnits negative (coefficient * Nat.pow 10 exponent.toNat * unitsPerOne) 1
    else ofUnits negative (coefficient * unitsPerOne) (Nat.pow 10 (-exponent).toNat)

/-- Neither an infinity nor not a number. -/
def isFinite : Double → Bool
  | finite _ _ => true
  | _ => false

/-- Equality of numbers: not a number differs from everything, and the two zeros are equal. -/
def equals : Double → Double → Bool
  | finite n a, finite m b => a == b && (n == m || a.mantissa == 0)
  | infinite n, infinite m => n == m
  | _, _ => false

/-- The signed count of units of a finite double. -/
def units? : Double → Option Int
  | finite negative m => some (if negative then -(m.units : Int) else m.units)
  | _ => none

/-- Equality with a whole number, exact at every size. -/
def equalsInt (x : Double) (n : Int) : Bool := x.units? == some (n * unitsPerOne)

/-- The whole number that a double is, if it is one. -/
def toInt? (x : Double) : Option Int :=
  x.units?.bind fun u => if u % unitsPerOne = 0 then some (u / unitsPerOne) else none

/-- Strict order of numbers; nothing is less or greater than not a number. -/
def less : Double → Double → Bool
  | nan, _ => false
  | _, nan => false
  | infinite n, infinite m => n && !m
  | infinite n, finite _ _ => n
  | finite _ _, infinite m => !m
  | x, y => match x.units?, y.units? with
    | some a, some b => a < b
    | _, _ => false

theorem isFinite_iff {x : Double} : x.isFinite = true ↔ ∃ n m, x = finite n m := by
  cases x <;> simp [isFinite]

theorem equals_self {x : Double} : x.equals x = (x != nan) := by
  cases x <;> simp [equals]

end Double

end Tiered.Number
