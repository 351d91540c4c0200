import Tiered.Value.Basic

/-!
# Equality — when two values are equal

Numbers are equal across kinds when they are the same number, and the truth values count as zero
and one; not a number differs from everything, itself included.  Lists and tuples are equal item by
item and never to each other; tables and sets are equal whatever their order; a thing from outside
equals only itself.
-/

namespace Tiered.Value

/-- The whole number that a truth value counts as. -/
def ofBool (b : Bool) : Int := if b then 1 else 0

/-- A value is the given whole number, of whatever kind. -/
def isWhole (n : Int) : Value → Bool
  | bool b => ofBool b == n
  | int m => m == n
  | float x => x.equalsInt n
  | _ => false

/-- A value is the given double, of whatever kind. -/
def isDouble (x : Number.Double) : Value → Bool
  | bool b => x.equalsInt (ofBool b)
  | int m => x.equalsInt m
  | float y => x.equals y
  | _ => false

mutual

/-- Two values are equal. -/
def equals : Value → Value → Bool
  | none, w => match w with
    | none => true
    | _ => false
  | bool b, w => isWhole (ofBool b) w
  | int n, w => isWhole n w
  | float x, w => isDouble x w
  | text s, w => match w with
    | text t => s == t
    | _ => false
  | octets a, w => match w with
    | octets b => a == b
    | _ => false
  | list a, w => match w with
    | list b => equalItems a b
    | _ => false
  | tuple a, w => match w with
    | tuple b => equalItems a b
    | _ => false
  | set a, w => match w with
    | set b => a.length == b.length && allWithin a b
    | _ => false
  | table a, w => match w with
    | table b => a.length == b.length && entriesWithin a b
    | _ => false
  | foreign a, w => match w with
    | foreign b => a == b
    | _ => false
  | notFound, w => match w with
    | notFound => true
    | _ => false

/-- Two rows of values are equal item by item. -/
def equalItems : List Value → List Value → Bool
  | [], [] => true
  | v :: vs, w :: ws => equals v w && equalItems vs ws
  | _, _ => false

/-- Every one of the values has an equal among the others. -/
def allWithin : List Value → List Value → Bool
  | [], _ => true
  | v :: vs, ws => ws.any (fun w => equals v w) && allWithin vs ws

/-- Every one of the entries has an entry with equal key and equal value among the others. -/
def entriesWithin : List (Value × Value) → List (Value × Value) → Bool
  | [], _ => true
  | (k, v) :: es, fs =>
    (match fs.find? (fun f => equals k f.1) with
      | some f => equals v f.2
      | Option.none => false) && entriesWithin es fs

end

theorem equals_text (s t : Text) : equals (text s) (text t) = (s == t) := by
  simp only [equals]

/-- A text equals only the same text. -/
theorem equals_text_iff {s : Text} {v : Value} : equals (text s) v = true ↔ v = text s := by
  cases v <;> simp only [equals, reduceCtorEq, Bool.false_eq_true, beq_iff_eq, text.injEq]
  exact eq_comm

end Tiered.Value
