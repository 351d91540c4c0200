import Tiered.Value.Basic

/-!
# Depth — how deep values are nested

Copying a value goes from every container on into its items, so what keeps a value from being copied
is how many containers are inside each other.
-/

namespace Tiered.Value

mutual

/-- How many containers are inside each other. -/
def depth : Value → Nat
  | list items => depthItems items + 1
  | tuple items => depthItems items + 1
  | set members => depthItems members + 1
  | table entries => depthEntries entries + 1
  | _ => 0

/-- How deep the deepest of several values is. -/
def depthItems : List Value → Nat
  | [] => 0
  | v :: vs => max (depth v) (depthItems vs)

/-- How deep the deepest key or value of several entries is. -/
def depthEntries : List (Value × Value) → Nat
  | [] => 0
  | (k, v) :: es => max (max (depth k) (depth v)) (depthEntries es)

end

end Tiered.Value
