import Tiered.Action
import Tiered.Resolver.Lookup

/-!
# Resolver — variables in two tiers

A resolver has an overlay, which is written, and an environment, which is only read.  A look-up
asks the overlay first, and what decides is whether the key is there: a value that is nothing,
empty, zero or false is found like any other.  Writes and look-ups are reported; asking whether a
key is there is not.
-/

namespace Tiered

/-- The two tiers of variables. -/
structure Resolver where
  overlay : Entries
  environment : Entries
  deriving Repr

namespace Resolver

/-- The value of a key with the tier it comes from. -/
def find? (r : Resolver) (key : Value) : Option (Value × Tier) :=
  match r.overlay.get? key with
  | some v => some (v, .snapshot)
  | none => (r.environment.get? key).map fun v => (v, .environment)

/-- One of the tiers holds the key. -/
def holds (r : Resolver) (key : Value) : Bool :=
  r.overlay.contains key || r.environment.contains key

/-- The keys of the overlay, and then those of the environment that the overlay does not hold. -/
def keys (r : Resolver) : List Value :=
  r.overlay.keys ++ r.environment.keys.filter fun k => !r.overlay.contains k

/-- What looking up a name says. -/
def answer (r : Resolver) (key : Value) (name : Text) : Lookup :=
  match r.find? key with
  | some (v, tier) => ⟨name, true, v, tier⟩
  | none => ⟨name, false, .none, .none⟩

/-- A key that can be looked for; one that can change in place cannot. -/
def checkKey (key : Value) : Except Failure Unit :=
  match key.unhashable? with
  | some kind => .error (.unhashable kind)
  | none => .ok ()

/-- The name that a key is in a look-up. -/
def nameOf [Validator] (key : Value) : Except Failure Text :=
  match Validator.text key with
  | .ok name => .ok name
  | .error complaint => .error (.invalidRecord ⟨Lookup.title, [⟨some "key", complaint, key⟩]⟩)

/-- Writes a value under a key of the overlay. -/
def set (key v : Value) : Action Resolver Unit := do
  Action.lift (checkKey key)
  Action.modify fun r => { r with overlay := r.overlay.put key v }
  Action.emit (.variableSet key)

/-- Looks a key up. -/
def lookup [Validator] (key : Value) : Action Resolver Lookup := do
  Action.lift (checkKey key)
  let name ← Action.lift (nameOf key)
  let r ← Action.read
  let found := r.answer key name
  Action.emit (.variableResolved key found.tier.name)
  return found

/-- The value of a key, or the given one if no tier holds it. -/
def get [Validator] (key absent : Value) : Action Resolver Value := do
  let found ← lookup key
  return if found.found then found.value else absent

/-- Says whether one of the tiers holds a key. -/
def contains (key : Value) : Action Resolver Bool := do
  Action.lift (checkKey key)
  let r ← Action.read
  return r.holds key

/-- Says whether something is the name of a variable; only texts are. -/
def has (key : Value) : Action Resolver Bool := do
  match key with
  | .text _ => contains key
  | _ => return false

/-- What an overlay is restored from: entries of its own, or the overlay that is being restored. -/
inductive Origin where
  | entries (es : Entries)
  | overlay
  deriving Repr

/-- The entries that an origin holds at some moment. -/
def Origin.entriesIn (o : Origin) (r : Resolver) : Entries :=
  match o with
  | .entries es => es
  | .overlay => r.overlay

/-- Empties the overlay, and then writes into it the entries that the origin holds by then. -/
def restore (o : Origin) : Action Resolver Unit := do
  Action.modify fun r => { r with overlay := [] }
  Action.modify fun r => { r with overlay := r.overlay.putAll (o.entriesIn r) }

/-- Restores the overlay from a value, which holds entries if it is a table, or items that are
entries.  What is not restored because of a fault in an item is what stands behind it. -/
def restoreFrom (v : Value) : Action Resolver Unit := do
  match v with
  | .table es => restore (.entries es)
  | v =>
    restore (.entries [])
    match v.items? with
    | none => Action.fail (.noItems v.fullKind)
    | some items =>
      let (es, fault) := Value.pairs 0 items
      restore (.entries es)
      match fault with
      | none => return ()
      | some fault => Action.fail (.pairs fault)

/-- Adds to a part of the value of a key, in the tier that the value comes from. -/
def change [Validator] (key : Value) (path : List Value) (sub v : Value) :
    Action Resolver Unit := do
  let found ← get key .notFound
  let changed ← match Value.addAt sub v path found with
    | .ok changed => pure changed
    | .error fault => Action.fail (.part fault)
  Action.modify fun r =>
    if r.overlay.contains key then { r with overlay := r.overlay.put key changed }
    else { r with environment := r.environment.put key changed }

end Resolver

end Tiered
