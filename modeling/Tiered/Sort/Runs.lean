import Tiered.Sort.Merge

/-!
# Runs — stable sorting by merging runs

A row is cut into runs: values that ascend already, or descend strictly and are turned round.  A
short run is filled up to `leastRun` by putting the next values into it one by one.  The runs are
merged in pairs of neighbours; how deep the boundary between two runs lies in a halving of the whole
row decides which pair comes first.  Comparing may fail, and then sorting does, at the first
comparison that fails.
-/

namespace Tiered.Sort

variable {α ε : Type}

/-- The values at the front that go on falling, or go on without falling, behind `last`, and the
values after them. -/
def further (less : α → α → Except ε Bool) (falling : Bool) (last : α) :
    List α → Except ε (List α × List α)
  | [] => .ok ([], [])
  | v :: vs => do
    if (← less v last) == falling then
      let (more, rest) ← further less falling v vs
      return (v :: more, rest)
    return ([], v :: vs)

/-- The first run of a row, in ascending order, and the values after it. -/
def firstRun (less : α → α → Except ε Bool) : List α → Except ε (List α × List α)
  | v :: w :: vs => do
    let falling ← less w v
    let (more, rest) ← further less falling w vs
    let run := v :: w :: more
    return (if falling then run.reverse else run, rest)
  | vs => .ok (vs, [])

/-- Puts a value into a row that is in order, behind what does not stand after it. -/
def insert (less : α → α → Except ε Bool) (row : List α) (v : α) : Except ε (List α) := do
  let values := row.toArray
  let place ← bisect (fun i => match values[i]? with
    | some w => (!·) <$> less v w
    | none => .ok false) 0 row.length
  return row.take place ++ v :: row.drop place

/-- The fewest values of a run in a row of the given length: the whole row below 64, and otherwise
its six leading binary digits, plus one if a digit behind them is not zero. -/
def leastRun (length : Nat) : Nat :=
  let rec go (n odd : Nat) : Nat :=
    if _h : n < 64 then n + odd else go (n / 2) (max odd (n % 2))
  go length 0

/-- The first run of a row, filled up to at least the given length, and the values after it. -/
def filledRun (less : α → α → Except ε Bool) (least : Nat) (row : List α) :
    Except ε (List α × List α) := do
  let (run, rest) ← firstRun less row
  let missing := least - run.length
  let filled ← (rest.take missing).foldlM (insert less) run
  return (filled, rest.drop missing)

/-- A run that waits to be merged: how many values stand before it in the row, its values, and how
deep the boundary behind it lies. -/
structure Waiting (α : Type) where
  start : Nat
  values : List α
  depth : Nat

/-- The first binary digit in which the fractions `a / n` and `b / n`, both below one, differ. -/
def digitOfDifference (fuel n a b : Nat) : Nat :=
  match fuel with
  | 0 => 0
  | fuel + 1 =>
    if n ≤ a then digitOfDifference fuel n (2 * (a - n)) (2 * (b - n)) + 1
    else if n ≤ b then 1
    else digitOfDifference fuel n (2 * a) (2 * b) + 1

/-- How deep the boundary between two neighbouring runs lies in a row of `total` values: the middles
of the two runs are told apart by that many halvings of the row. -/
def depthBetween (total start first second : Nat) : Nat :=
  let a := 2 * start + first
  digitOfDifference total total a (a + first + second)

/-- Two neighbouring runs as one. -/
def join (less : α → α → Except ε Bool) (patience : Nat) (earlier later : Waiting α) :
    Except ε (Waiting α × Nat) := do
  let (values, patience) ← merge less patience earlier.values later.values
  return (⟨earlier.start, values, earlier.depth⟩, patience)

/-- Merges the last waiting runs, the last one first in the list, as long as the boundary in front
of the last lies deeper than `depth`. -/
def joinDeeper (less : α → α → Except ε Bool) (depth patience : Nat) :
    List (Waiting α) → Except ε (List (Waiting α) × Nat)
  | last :: before :: others => do
    if depth < before.depth then
      let (joined, patience) ← join less patience before last
      joinDeeper less depth patience (joined :: others)
    else return (last :: before :: others, patience)
  | waiting => .ok (waiting, patience)
termination_by waiting => waiting.length

/-- Merges all waiting runs, the last one first in the list: the last two, or the two before the
last if they are shorter at their front than the last. -/
def joinAll (less : α → α → Except ε Bool) (patience : Nat) :
    List (Waiting α) → Except ε (List α)
  | last :: middle :: first :: others => do
    if first.values.length < last.values.length then
      let (joined, patience) ← join less patience first middle
      joinAll less patience (last :: joined :: others)
    else
      let (joined, patience) ← join less patience middle last
      joinAll less patience (joined :: first :: others)
  | [last, before] => do
    let (joined, _) ← join less patience before last
    return joined.values
  | [run] => .ok run.values
  | [] => .ok []
termination_by waiting => waiting.length

/-- Cuts what is left of a row into runs, merging as far as the depths of their boundaries say, and
at the end merges all. -/
def sortFrom (less : α → α → Except ε Bool) (total least : Nat) :
    Nat → Nat → List (Waiting α) → List α → Except ε (List α)
  | 0, patience, waiting, _ => joinAll less patience waiting
  | fuel + 1, patience, waiting, row => do
    if row.isEmpty then joinAll less patience waiting
    else
      let (run, rest) ← filledRun less (min least row.length) row
      match waiting with
      | [] => sortFrom less total least fuel patience [⟨0, run, 0⟩] rest
      | last :: _ =>
        let depth := depthBetween total last.start last.values.length run.length
        let (waiting, patience) ← joinDeeper less depth patience waiting
        let start := total - row.length
        let marked := match waiting with
          | last :: others => { last with depth := depth } :: others
          | [] => []
        sortFrom less total least fuel patience (⟨start, run, 0⟩ :: marked) rest

/-- The values in order; values of which neither stands before the other keep the order they had. -/
def sort (less : α → α → Except ε Bool) (row : List α) : Except ε (List α) :=
  sortFrom less row.length (leastRun row.length) row.length worthwhile [] row

example : (sort (fun a b : Nat => (.ok (a < b) : Except Unit Bool)) [3, 1, 2, 2]).toOption =
    some [1, 2, 2, 3] := by decide +kernel

end Tiered.Sort
