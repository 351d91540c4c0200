/-!
# Place — where a value belongs in a row

A search asks at positions of a row whether they lie in front of the place that it looks for.
`bisect` halves a range of positions.  `seek` begins at a position of its own, goes on from there in
strides that double, and halves what lies between the last two.  Asking may fail, and then the
search does.
-/

namespace Tiered.Sort

variable {ε : Type}

/-- The place between two positions, found by halving. -/
def bisect (isPassed : Nat → Except ε Bool) (low high : Nat) : Except ε Nat :=
  if _h : low < high then do
    let middle := low + (high - low) / 2
    if ← isPassed middle then bisect isPassed (middle + 1) high
    else bisect isPassed low middle
  else .ok low
termination_by high - low
decreasing_by all_goals omega

/-- The last distance and the next after it: `next` doubles while it is below the limit and the
answer there is yes. -/
def stride (goesOn : Nat → Except ε Bool) (limit last next : Nat) : Except ε (Nat × Nat) :=
  if _h : next < limit then do
    if ← goesOn next then stride goesOn limit next (2 * next + 1)
    else return (last, next)
  else .ok (last, limit)
termination_by limit - next
decreasing_by omega

/-- The place in a row of `length` positions, looked for from the position `start` on. -/
def seek (isPassed : Nat → Except ε Bool) (length start : Nat) : Except ε Nat := do
  if ← isPassed start then
    let (last, next) ← stride (fun d => isPassed (start + d)) (length - start) 0 1
    bisect isPassed (start + last + 1) (start + next)
  else
    let (last, next) ← stride (fun d => (!·) <$> isPassed (start - d)) (start + 1) 0 1
    bisect isPassed (start + 1 - next) (start - last)

end Tiered.Sort
