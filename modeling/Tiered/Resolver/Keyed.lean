import Tiered.Resolver.Basic

/-!
# Keyed — a resolver whose keys are objects

A table finds a key that it was given by what it is, before it compares values: a key that is not a
number, and so differs from itself, is found by itself and not by another one.  Here the keys of a
resolver are objects that have values, and a table takes some objects for the same (`KeyObject`).
Where every key is found by its value only, as a key that is made anew for every call is, this is
the resolver whose keys are values.
-/

namespace Tiered

/-- Keys that are objects. -/
class KeyObject (κ : Type) where
  /-- The value of a key. -/
  value : κ → Value
  /-- A table that has the one key finds it by the other. -/
  same : κ → κ → Bool

/-- An object by its number, where the numbers have these values. -/
structure Numbered (values : Nat → Value) where
  number : Nat

/-- An object is found by itself, and by what is equal to it. -/
instance Numbered.keyObject (values : Nat → Value) : KeyObject (Numbered values) where
  value k := values k.number
  same k l := k.number == l.number || (values k.number).equals (values l.number)

/-- The two tiers of variables under keys that are objects. -/
structure Keyed (κ : Type) where
  overlay : List (κ × Value)
  environment : List (κ × Value)

namespace Keyed

open KeyObject (value same)

variable {κ : Type} [KeyObject κ]

/-- The value that a table has under a key. -/
def find (es : List (κ × Value)) (k : κ) : Option Value :=
  (es.find? fun e => same e.1 k).map Prod.snd

/-- The table with a value written under a key. -/
def put : List (κ × Value) → κ → Value → List (κ × Value)
  | [], k, v => [(k, v)]
  | e :: es, k, v => if same e.1 k then (e.1, v) :: es else e :: put es k v

/-- The table with entries written into it, in order. -/
def putAll (es fs : List (κ × Value)) : List (κ × Value) :=
  fs.foldl (fun acc e => put acc e.1 e.2) es

/-- The value of a key with the tier it comes from. -/
def find? (r : Keyed κ) (key : κ) : Option (Value × Tier) :=
  match find r.overlay key with
  | some v => some (v, .snapshot)
  | none => (find r.environment key).map fun v => (v, .environment)

/-- One of the tiers holds the key. -/
def holds (r : Keyed κ) (key : κ) : Bool :=
  (find r.overlay key).isSome || (find r.environment key).isSome

/-- The keys of the overlay, and then those of the environment that the overlay does not hold. -/
def keys (r : Keyed κ) : List κ :=
  r.overlay.map Prod.fst ++
    (r.environment.map Prod.fst).filter fun k => !(find r.overlay k).isSome

/-- What looking up a name says. -/
def answer (r : Keyed κ) (key : κ) (name : Text) : Lookup :=
  match r.find? key with
  | some (v, tier) => ⟨name, true, v, tier⟩
  | none => ⟨name, false, .none, .none⟩

/-- Writes a value under a key of the overlay. -/
def set (key : κ) (v : Value) : Action (Keyed κ) Unit := do
  Action.lift (Resolver.checkKey (value key))
  Action.modify fun r => { r with overlay := put r.overlay key v }
  Action.emit (.variableSet (value key))

/-- Replaces the overlay by entries. -/
def restore (es : List (κ × Value)) : Action (Keyed κ) Unit := do
  Action.modify fun r => { r with overlay := [] }
  Action.modify fun r => { r with overlay := putAll r.overlay es }

/-- Looks a key up. -/
def lookup [Validator] (key : κ) : Action (Keyed κ) Lookup := do
  Action.lift (Resolver.checkKey (value key))
  let name ← Action.lift (Resolver.nameOf (value key))
  let r ← Action.read
  let found := r.answer key name
  Action.emit (.variableResolved (value key) found.tier.name)
  return found

/-- The value of a key, or the given one if no tier holds it. -/
def get [Validator] (key : κ) (absent : Value) : Action (Keyed κ) Value := do
  let found ← lookup key
  return if found.found then found.value else absent

/-- Says whether one of the tiers holds a key. -/
def contains (key : κ) : Action (Keyed κ) Bool := do
  Action.lift (Resolver.checkKey (value key))
  let r ← Action.read
  return r.holds key

/-- Says whether something is the name of a variable; only texts are. -/
def has (key : κ) : Action (Keyed κ) Bool := do
  match value key with
  | .text _ => contains key
  | _ => return false

end Keyed

end Tiered
