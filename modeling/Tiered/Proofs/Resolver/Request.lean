import Mathlib
import Tiered.Proofs.Keeps
import Tiered.Resolver.Basic

/-!
# Request — what is asked of a resolver

Each operation on a resolver as a request, with its answer.  A request tells of the variable that
it writes or looks up, and of nothing else (`Request.tells_run`).
-/

open Tiered.Action

namespace Tiered.Resolver

/-- What can be asked of a resolver. -/
inductive Request where
  | set (key v : Value)
  | restore (entries : Value)
  /-- Restores the overlay from itself. -/
  | restoreOverlay
  | lookup (key : Value)
  | get (key absent : Value)
  | contains (key : Value)
  | has (key : Value)
  | keys
  | copy
  /-- Adds to a part of a value in place. -/
  | change (key : Value) (path : List Value) (sub v : Value)
  deriving Repr

/-- What a resolver says to a request. -/
inductive Answer where
  | done
  | found (l : Lookup)
  | value (v : Value)
  | told (yes : Bool)
  | keys (keys : List Value)
  | entries (es : Entries)
  deriving Repr

namespace Request

/-- What a request does to a resolver. -/
def run [Validator] : Request → Action Resolver Answer
  | set key v => do
    Resolver.set key v
    return .done
  | restore entries => do
    restoreFrom entries
    return .done
  | restoreOverlay => do
    Resolver.restore .overlay
    return .done
  | lookup key => do return .found (← Resolver.lookup key)
  | get key absent => do return .value (← Resolver.get key absent)
  | contains key => do return .told (← Resolver.contains key)
  | has key => do return .told (← Resolver.has key)
  | keys => do return .keys (← Action.read).keys
  | copy => do return .entries (← Action.read).overlay
  | change key path sub v => do
    Resolver.change key path sub v
    return .done

end Request

variable {topics : List Log.Topic}

theorem tells_set (key v : Value) : (set key v).Tells [.variableSet] :=
  (reports_lift _).bind fun _ => (reports_modify _).bind fun _ =>
    reports_emit (by simp [About, Log.Event.variableSet])

theorem tells_restore (o : Origin) : (restore o).Tells topics :=
  (reports_modify _).bind fun _ => reports_modify _

theorem tells_restoreFrom (v : Value) : (restoreFrom v).Tells topics := by
  rw [restoreFrom.eq_def]
  split
  · exact tells_restore _
  · refine (tells_restore _).bind fun _ => ?_
    split
    · exact reports_fail _
    · refine (tells_restore _).bind fun _ => ?_
      split
      · exact reports_pure _
      · exact reports_fail _

theorem tells_contains (key : Value) : (contains key).Tells topics :=
  (reports_lift _).bind fun _ => reports_read.bind fun _ => reports_pure _

theorem tells_has (key : Value) : (has key).Tells topics := by
  cases key
  case text t => exact tells_contains _
  all_goals exact reports_pure _

variable [Validator]

theorem tells_lookup (key : Value) : (lookup key).Tells [.variableResolved] :=
  (reports_lift _).bind fun _ => (reports_lift _).bind fun _ => reports_read.bind fun _ =>
    (reports_emit (by simp [About, Log.Event.variableResolved])).bind fun _ => reports_pure _

theorem tells_get (key absent : Value) : (get key absent).Tells [.variableResolved] :=
  (tells_lookup key).bind fun _ => reports_pure _

theorem tells_change (key : Value) (path : List Value) (sub v : Value) :
    (change key path sub v).Tells [.variableResolved] := by
  refine (tells_get key .notFound).bind fun found => ?_
  dsimp only
  split
  · exact (reports_pure _).bind fun _ => reports_modify _
  · exact (reports_fail _).bind fun _ => reports_modify _

/-- **A request tells of variables only.** -/
theorem Request.tells_run (r : Request) : r.run.Tells [.variableSet, .variableResolved] := by
  cases r with
  | set key v => exact ((tells_set key v).mono (by simp)).bind fun _ => reports_pure _
  | restore entries => exact (tells_restoreFrom entries).bind fun _ => reports_pure _
  | restoreOverlay => exact (tells_restore _).bind fun _ => reports_pure _
  | lookup key => exact ((tells_lookup key).mono (by simp)).bind fun _ => reports_pure _
  | get key absent => exact ((tells_get key absent).mono (by simp)).bind fun _ => reports_pure _
  | contains key => exact (tells_contains key).bind fun _ => reports_pure _
  | has key => exact (tells_has key).bind fun _ => reports_pure _
  | keys => exact reports_read.bind fun _ => reports_pure _
  | copy => exact reports_read.bind fun _ => reports_pure _
  | change key path sub v =>
      exact ((tells_change key path sub v).mono (by simp)).bind fun _ => reports_pure _

end Tiered.Resolver
