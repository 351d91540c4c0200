import Tiered.Value.Order

/-!
# Members — the order in which a set lists its members

A set keeps its members in a table of slots, whose number is a power of two.  The mark of a member
says where its search for a free slot begins: it looks at a few slots in a row, where so many are
left, and then leaps.  A table of which three fifths are taken gives way to a larger one, which
takes the members slot by slot.  Numbers that are equal have equal marks, because a mark is the
remainder of the number's exact value by a prime.
-/

namespace Tiered

/-- A table of slots and how many of them are taken. -/
structure Slots where
  row : List (Option (UInt64 × Value))
  taken : Nat

namespace Slots

/-- A table of free slots. -/
def free (size : Nat) : Slots := ⟨List.replicate size none, 0⟩

/-- How many slots a search looks at behind the one that it leaps to. -/
def reach : Nat := 9

/-- A slot of a row is free. -/
def isFree (row : List (Option (UInt64 × Value))) (i : Nat) : Bool := (row.getD i none).isNone

/-- The free slot that a search finds from slot `i` on; `stir` sends its leaps to all parts of the
table. -/
def search (row : List (Option (UInt64 × Value))) : Nat → Nat → UInt64 → Nat
  | 0, i, _ => i
  | fuel + 1, i, stir =>
    let behind := if i + reach < row.length then reach else 0
    match (List.range (behind + 1)).find? fun d => isFree row (i + d) with
    | some d => i + d
    | none =>
      let stir := stir >>> 5
      search row fuel ((i * 5 + 1 + stir.toNat) % row.length) stir

/-- The table with a member in the slot that its search finds.  A search has leapt to every slot
once its mark is used up, which fourteen leaps do. -/
def place (t : Slots) (member : UInt64 × Value) : Slots :=
  let i := search t.row (t.row.length + 14) (member.1.toNat % t.row.length) member.1
  ⟨t.row.set i (some member), t.taken + 1⟩

/-- The members of a table, slot by slot. -/
def members (t : Slots) : List (UInt64 × Value) := t.row.filterMap id

/-- The size of a table for more than `n` members. -/
def sizeFor (n : Nat) : Nat := max 8 (Nat.pow 2 (n.log2 + 1))

/-- The table with one member more, in a larger table when it is too full. -/
def add (t : Slots) (member : UInt64 × Value) : Slots :=
  let t := t.place member
  if t.taken * 5 < (t.row.length - 1) * 3 then t
  else
    let wanted := if 50000 < t.taken then t.taken * 2 else t.taken * 4
    t.members.foldl place (free (sizeFor wanted))

end Slots

namespace Value

/-- The prime by which the marks of numbers are remainders. -/
def markPrime : Nat := Nat.pow 2 61 - 1

/-- The mark of a number with a remainder and a sign; no mark is minus one. -/
def signedMark (negative : Bool) (remainder : Nat) : UInt64 :=
  if !negative then .ofNat remainder
  else if remainder = 1 then 0 - 2
  else 0 - .ofNat remainder

/-- The mark of a number.  Dividing by the count of units in one is multiplying by `2 ^ 24`, because
`2 ^ 1098` leaves the remainder one. -/
def numberMark? : Int ⊕ Number.Double → Option UInt64
  | .inl n => some (signedMark (n < 0) (n.natAbs % markPrime))
  | .inr .nan => Option.none
  | .inr (.infinite negative) => some (signedMark negative 314159)
  | .inr (.finite negative size) =>
    some (signedMark negative (size.units * Nat.pow 2 24 % markPrime))

/-- The mark of a row goes on with the mark of one more item. -/
def mixMark (mixed mark : UInt64) : UInt64 :=
  let mixed := mixed + mark * 14029467366897019727
  (mixed <<< 31 ||| mixed >>> 33) * 11400714785074694791

mutual

/-- The mark of a value, where the value alone determines it. -/
def mark? : Value → Option UInt64
  | bool b => numberMark? (.inl (ofBool b))
  | int n => numberMark? (.inl n)
  | float x => numberMark? (.inr x)
  | text t => if t.isEmpty then some 0 else Option.none
  | octets bytes => if bytes.isEmpty then some 0 else Option.none
  | tuple items => (mixedMark? 2870177450012600261 items).map fun mixed =>
    let mark := mixed + (.ofNat items.length ^^^ (2870177450012600261 ^^^ 3527539))
    if mark = 0 - 1 then 1546275796 else mark
  | _ => Option.none

/-- The marks of the items, mixed into what is mixed so far. -/
def mixedMark? (mixed : UInt64) : List Value → Option UInt64
  | [] => some mixed
  | v :: vs => (mark? v).bind fun mark => mixedMark? (mixMark mixed mark) vs

end

/-- A set of the values: an equal value counts once.  The members whose marks they do not determine
themselves stand behind the others. -/
def ofMembers (vs : List Value) : Value :=
  let distinct := vs.foldl
    (fun acc v => if acc.any (fun w => equals w v) then acc else acc ++ [v]) []
  let marked := distinct.filterMap fun v => (mark? v).map fun mark => (mark, v)
  let others := distinct.filter fun v => (mark? v).isNone
  .set (((marked.foldl Slots.add (.free 8)).members.map Prod.snd) ++ others)

end Value

end Tiered
