import Tiered.Sort.Runs
import Tiered.Value.Equality

/-!
# Order — sorting values

Texts are ordered by code point, octets by octet, numbers across kinds, lists and tuples item by
item, and a set stands before every set that holds it and more.  Two values of kinds that have no
common order cannot be compared.
-/

namespace Tiered

/-- Two kinds of values that cannot be put in order, the one asked about first. -/
structure Unordered where
  left : String
  right : String
  deriving DecidableEq, Repr

namespace Value

/-- A value as a number: a whole number or a double. -/
def number? : Value → Option (Int ⊕ Number.Double)
  | bool b => some (.inl (ofBool b))
  | int n => some (.inl n)
  | float x => some (.inr x)
  | _ => Option.none

/-- A whole number is less than a double, exactly. -/
def intLess (n : Int) : Number.Double → Bool
  | .nan => false
  | .infinite negative => !negative
  | x => match x.units? with
    | some u => n * Number.unitsPerOne < u
    | Option.none => false

/-- A double is less than a whole number, exactly. -/
def lessInt (x : Number.Double) (n : Int) : Bool :=
  match x with
  | .nan => false
  | .infinite negative => negative
  | x => match x.units? with
    | some u => u < n * Number.unitsPerOne
    | Option.none => false

/-- The order of two numbers. -/
def numberLess : Int ⊕ Number.Double → Int ⊕ Number.Double → Bool
  | .inl n, .inl m => n < m
  | .inl n, .inr y => intLess n y
  | .inr x, .inl m => lessInt x m
  | .inr x, .inr y => x.less y

mutual

/-- The first value stands before the second. -/
def before : Value → Value → Except Unordered Bool
  | text s, w => match w with
    | text t => .ok (s.before t)
    | w => .error ⟨"str", w.fullKind⟩
  | octets a, w => match w with
    | octets b => .ok (a < b)
    | w => .error ⟨"bytes", w.fullKind⟩
  | list a, w => match w with
    | list b => itemsBefore a b
    | w => .error ⟨"list", w.fullKind⟩
  | tuple a, w => match w with
    | tuple b => itemsBefore a b
    | w => .error ⟨"tuple", w.fullKind⟩
  | set a, w => match w with
    | set b => .ok (a.length < b.length && allWithin a b)
    | w => .error ⟨"set", w.fullKind⟩
  | v, w => match number? v, number? w with
    | some x, some y => .ok (numberLess x y)
    | _, _ => .error ⟨v.fullKind, w.fullKind⟩

/-- A row stands before another at the first items that differ; a shorter row stands before what
continues it. -/
def itemsBefore : List Value → List Value → Except Unordered Bool
  | [], ws => .ok (!ws.isEmpty)
  | _ :: _, [] => .ok false
  | v :: vs, w :: ws => if equals v w then itemsBefore vs ws else before v w

end

/-- The values in order; values of which neither stands before the other keep the order they had. -/
def sort (vs : List Value) : Except Unordered (List Value) := Sort.sort before vs

end Value

end Tiered
