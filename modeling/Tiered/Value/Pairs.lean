import Tiered.Value.Entries

/-!
# Pairs — entries from things that come in twos

What can be walked through gives its items in order: the characters of a text, the octets of an
octet string, the keys of a table.  Items that have two items themselves are entries, key before
value.  Reading entries stops at the first item that is none.
-/

namespace Tiered

/-- Why an item is no entry. -/
inductive PairFault where
  /-- The item with a number cannot be walked through. -/
  | noRow (index : Nat)
  /-- The item with a number has not two items. -/
  | wrongLength (index length : Nat)
  /-- The key is of a kind that can change in place. -/
  | unhashable (kind : String)
  deriving DecidableEq, Repr

/-- The words for a fault. -/
def PairFault.message : PairFault → String
  | noRow index =>
    "cannot convert dictionary update sequence element #" ++ toString index ++ " to a sequence"
  | wrongLength index length =>
    "dictionary update sequence element #" ++ toString index ++ " has length " ++
      toString length ++ "; 2 is required"
  | unhashable kind => "unhashable type: '" ++ kind ++ "'"

namespace Value

/-- The items of a value that can be walked through. -/
def items? : Value → Option (List Value)
  | list items => some items
  | tuple items => some items
  | set members => some members
  | table entries => some (Entries.keys entries)
  | text t => some (t.numbers.map fun code => text (.ofNumbers [code]))
  | octets bytes => some (bytes.map fun b => int b.toNat)
  | foreign thing => if thing.walkable then some [] else Option.none
  | _ => Option.none

/-- The entries that items are, numbered from `index` on, up to the first that is none. -/
def pairs (index : Nat) : List Value → Entries × Option PairFault
  | [] => ([], Option.none)
  | v :: vs => match items? v with
    | Option.none => ([], some (.noRow index))
    | some [k, w] => match k.unhashable? with
      | some kind => ([], some (.unhashable kind))
      | Option.none =>
        let (entries, fault) := pairs (index + 1) vs
        ((k, w) :: entries, fault)
    | some items => ([], some (.wrongLength index items.length))

example : pairs 0 [list [none, none], text "x"] = ([(none, none)], some (.wrongLength 1 1)) := rfl

end Value

end Tiered
