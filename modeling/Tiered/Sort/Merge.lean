import Tiered.Sort.Place

/-!
# Merge — two rows that are in order made one

Both rows are read from the same end and the nearer value of the two is taken, the earlier row's if
neither stands before the other.  While the values alternate they are compared in pairs; once one
row has given `patience` values running, whole stretches are looked for in leaps.  Leaping that pays
lowers the patience for what follows, and leaping that does not raises it.  Comparing may fail, and
the order in which values are compared is part of what a merge does.
-/

namespace Tiered.Sort

variable {α ε : Type}

/-- The end that rows are read from. -/
inductive Side where
  | front
  | back
  deriving DecidableEq, Repr

/-- How the next values are found: in pairs, with the counts of values running that the earlier and
the later row have just given, or in leaps, for the first time or again. -/
inductive Pace where
  | pairs (earlier later : Nat)
  | leaps (again : Bool)
  deriving DecidableEq, Repr

/-- The shortest stretch for which leaping pays. -/
def worthwhile : Nat := 7

/-- How many values of a row come before the place, looked for from a position on. -/
def passed (isPassed : α → Except ε Bool) (row : List α) (start : Nat) : Except ε Nat :=
  let values := row.toArray
  seek (fun i => match values[i]? with
    | some v => isPassed v
    | none => .ok false) row.length start

/-- How many values of a row, which is read from `side`, are read before the place is met. -/
def reach (side : Side) (isPassed : α → Except ε Bool) (row : List α) : Except ε Nat :=
  match side with
  | .front => passed isPassed row 0
  | .back => (row.length - ·) <$> passed isPassed row.reverse (row.length - 1)

/-- Nothing is left to compare: what is left of the rows is in order already. -/
def settled (side : Side) (earlier later : List α) : Bool :=
  match side with
  | .front => earlier.length ≤ 1 || later.isEmpty
  | .back => later.length ≤ 1 || earlier.isEmpty

/-- The merged row, from what was taken, the last first, and what is left. -/
def gather (side : Side) (earlier later taken : List α) : List α :=
  match side with
  | .front => taken.reverse ++ later ++ earlier
  | .back => later.reverse ++ earlier.reverse ++ taken

/-- Merges what is left of two rows.  The rows hold the values in the order in which they are read;
the result is the merged row with the patience that is left. -/
def mergeFrom (less : α → α → Except ε Bool) (side : Side) (pace : Pace) (patience : Nat)
    (earlier later taken : List α) : Except ε (List α × Nat) :=
  if settled side earlier later then .ok (gather side earlier later taken, patience)
  else match earlier, later with
  | x :: xs, y :: ys =>
    match pace with
    | .pairs a b => do
      if (← less y x) == (side = .front) then
        let pace := if patience ≤ b + 1 then .leaps false else .pairs 0 (b + 1)
        mergeFrom less side pace patience (x :: xs) ys (y :: taken)
      else
        let pace := if patience ≤ a + 1 then .leaps false else .pairs (a + 1) 0
        mergeFrom less side pace patience xs (y :: ys) (x :: taken)
    | .leaps again => do
      let patience := if again && 1 < patience then patience - 1 else patience
      let a ← reach side (fun v => (!·) <$> less y v) (x :: xs)
      let taken := ((x :: xs).take a).reverse ++ taken
      if settled side ((x :: xs).drop a) (y :: ys) then
        return (gather side ((x :: xs).drop a) (y :: ys) taken, patience)
      let taken := y :: taken
      if settled side ((x :: xs).drop a) ys then
        return (gather side ((x :: xs).drop a) ys taken, patience)
      match _h : (x :: xs).drop a with
      | [] => return (gather side [] ys taken, patience)
      | z :: zs =>
        let b ← reach side (fun v => less v z) ys
        let taken := (ys.take b).reverse ++ taken
        if settled side (z :: zs) (ys.drop b) then
          return (gather side (z :: zs) (ys.drop b) taken, patience)
        let taken := z :: taken
        if settled side zs (ys.drop b) then
          return (gather side zs (ys.drop b) taken, patience)
        if worthwhile ≤ a || worthwhile ≤ b then
          mergeFrom less side (.leaps true) patience zs (ys.drop b) taken
        else mergeFrom less side (.pairs 0 0) (patience + 1) zs (ys.drop b) taken
  | xs, ys => .ok (gather side xs ys taken, patience)
termination_by earlier.length + later.length
decreasing_by
  · simp
  · simp
  all_goals
    have hz := congrArg List.length _h
    simp only [List.length_drop, List.length_cons] at hz ⊢
    omega

/-- Merges two rows, each in order, the earlier one before the later.  Values at the two outer ends
that stand right already are left where they are; the shorter of what remains decides the end at
which merging begins, and the value there that must come first is taken unasked. -/
def merge (less : α → α → Except ε Bool) (patience : Nat) (earlier later : List α) :
    Except ε (List α × Nat) :=
  match later.head?, earlier.getLast? with
  | some first, some last => do
    let a ← passed (fun v => (!·) <$> less first v) earlier 0
    let ahead := earlier.take a
    let earlier := earlier.drop a
    if earlier.isEmpty then return (ahead ++ later, patience)
    let b ← passed (fun v => less v last) later (later.length - 1)
    let behind := later.drop b
    let later := later.take b
    if later.isEmpty then return (ahead ++ earlier ++ behind, patience)
    let (merged, patience) ←
      if earlier.length ≤ later.length then
        mergeFrom less .front (.pairs 0 0) patience earlier later.tail (later.take 1)
      else
        mergeFrom less .back (.pairs 0 0) patience earlier.reverse.tail later.reverse
          (earlier.reverse.take 1)
    return (ahead ++ merged ++ behind, patience)
  | _, _ => .ok (earlier ++ later, patience)

end Tiered.Sort
