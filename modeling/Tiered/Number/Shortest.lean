import Tiered.Number.Double

/-!
# Shortest — the fewest decimal digits that read back

`shortest` finds, for a magnitude, the decimal with the fewest digits that the reader rounds back
to it: for one digit, two, up to seventeen, it tries the two neighbours of the exact value on that
decimal grid, and of two that read back it takes the nearer, at a tie the even one.  A `Layout`
says how the digits are written: positionally within a range of sizes and with an exponent outside
it.  What `shortest` gives reads back (`ofDecimal_shortest?`).
-/

namespace Tiered.Number

/-- A decimal number: `coefficient * 10 ^ exponent`. -/
structure DecimalFraction where
  coefficient : Nat
  exponent : Int
  deriving DecidableEq, Repr

namespace DecimalFraction

/-- The decimal digits, without the zeros at the end. -/
def trimmed (d : DecimalFraction) : DecimalFraction :=
  if h : d.coefficient ≠ 0 ∧ d.coefficient % 10 = 0 then
    trimmed ⟨d.coefficient / 10, d.exponent + 1⟩
  else d
termination_by d.coefficient
decreasing_by omega

end DecimalFraction

namespace Shortest

/-- The `e` with `10 ^ (e - 1) ≤ num / den < 10 ^ e`, for a positive quotient. -/
def leading (num den : Nat) : Int :=
  if den ≤ num then (Decimal.digits (num / den)).length
  else 1 - ((Decimal.digits ((den + num - 1) / num - 1)).length : Int)

/-- The quotient `num / den` measured in steps of `10 ^ p`, as a numerator and a denominator. -/
def scaled (num den : Nat) (p : Int) : Nat × Nat :=
  if 0 ≤ p then (num, den * Nat.pow 10 p.toNat) else (num * Nat.pow 10 (-p).toNat, den)

/-- The decimal reads back as the given magnitude. -/
def readsBack (m : Magnitude) (d : DecimalFraction) : Bool :=
  Double.ofDecimal false d.coefficient d.exponent == .finite false m

/-- The neighbour of the magnitude on the grid of `count` digits that reads back, the nearer one
if both do, or nothing. -/
def onGrid? (m : Magnitude) (count : Nat) : Option DecimalFraction :=
  let p := leading m.units unitsPerOne - count
  let (num, den) := scaled m.units unitsPerOne p
  let below : DecimalFraction := ⟨num / den, p⟩
  let above : DecimalFraction := ⟨num / den + 1, p⟩
  let nearer : DecimalFraction := ⟨roundHalfEven num den, p⟩
  if readsBack m below && readsBack m above then some nearer
  else if readsBack m below then some below
  else if readsBack m above then some above
  else none

/-- The magnitude without any rounding: a unit is `5 ^ 1074` steps of `10 ^ (-1074)`. -/
def exact (m : Magnitude) : DecimalFraction := ⟨m.units * Nat.pow 5 1074, -1074⟩

/-- The first grid of at most seventeen digits with a neighbour that reads back. -/
def shortest? (m : Magnitude) : Option DecimalFraction :=
  ((List.range 17).findSome? fun i => onGrid? m (i + 1)).filter (readsBack m)

end Shortest

/-- The shortest decimal that reads back as the magnitude. -/
def Magnitude.shortest (m : Magnitude) : DecimalFraction :=
  (((Shortest.shortest? m).map DecimalFraction.trimmed).filter (Shortest.readsBack m)).getD
    (Shortest.exact m)

/-- Whatever the search finds reads back. -/
theorem ofDecimal_shortest? {m : Magnitude} {d : DecimalFraction}
    (h : Shortest.shortest? m = some d) :
    Double.ofDecimal false d.coefficient d.exponent = .finite false m := by
  have := Option.filter_eq_some_iff.1 h
  simpa [Shortest.readsBack] using this.2

/-- How a double is written: positionally while its point lies between the bounds, behind at least
one digit after the point, and with an exponent of at least two digits elsewhere. -/
structure Layout where
  /-- The least position of the point, counted from the first digit, that is written out. -/
  least : Int
  /-- The greatest such position. -/
  greatest : Int
  /-- The least count of digits in an exponent. -/
  exponentDigits : Nat
  /-- What stands for not a number. -/
  notANumber : String
  /-- What stands for the positive infinity. -/
  infinity : String

/-- Numbers from `0.0001` up to sixteen digits before the point are written positionally. -/
def Layout.plain : Layout where
  least := -3
  greatest := 16
  exponentDigits := 2
  notANumber := "nan"
  infinity := "inf"

namespace Layout

/-- The digits with a point at the given position, zeros filling what is missing. -/
def positional (ds : List Char) (point : Int) : List Char :=
  if point ≤ 0 then '0' :: '.' :: List.replicate (-point).toNat '0' ++ ds
  else if (ds.length : Int) ≤ point then
    ds ++ List.replicate (point - ds.length).toNat '0' ++ ['.', '0']
  else ds.take point.toNat ++ '.' :: ds.drop point.toNat

/-- The digits with a point behind the first one and the exponent that this takes. -/
def scientific (layout : Layout) (ds : List Char) (exponent : Int) : List Char :=
  let size := Decimal.digits exponent.natAbs
  let padded := List.replicate (layout.exponentDigits - size.length) '0' ++ size
  ds.take 1 ++ (if ds.length ≤ 1 then [] else '.' :: ds.drop 1) ++
    'e' :: (if exponent < 0 then '-' else '+') :: padded

/-- A decimal number, in the way that its size asks for. -/
def decimal (layout : Layout) (d : DecimalFraction) : List Char :=
  let ds := Decimal.digits d.coefficient
  let point := ds.length + d.exponent
  if d.coefficient = 0 then ['0', '.', '0']
  else if layout.least ≤ point ∧ point ≤ layout.greatest then positional ds point
  else layout.scientific ds (point - 1)

/-- The sign of a number in front of its text. -/
def signed (negative : Bool) (text : List Char) : List Char :=
  if negative then '-' :: text else text

/-- The text of a double. -/
def text (layout : Layout) : Double → List Char
  | .nan => layout.notANumber.toList
  | .infinite negative => signed negative layout.infinity.toList
  | .finite negative m => signed negative (layout.decimal m.shortest)

end Layout

end Tiered.Number
