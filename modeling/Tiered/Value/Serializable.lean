import Tiered.Value.Entries

/-!
# Serializable — the values that a file can keep

A file keeps nothing, truth values, whole and finite numbers, texts, lists and tuples of such
values, and tables of such values under texts.  Of a table of variables the serializable entries
are kept in their order (`keep`); the others are left out (`skipped`).
-/

namespace Tiered

namespace Value

mutual

/-- A file can keep the value. -/
def serializable : Value → Bool
  | none => true
  | bool _ => true
  | int _ => true
  | float x => x.isFinite
  | text _ => true
  | octets _ => false
  | list items => serializableItems items
  | tuple items => serializableItems items
  | set _ => false
  | table entries => serializableEntries entries
  | foreign _ => false
  | notFound => false

/-- A file can keep all of the values. -/
def serializableItems : List Value → Bool
  | [] => true
  | v :: vs => serializable v && serializableItems vs

/-- Every key is a text and a file can keep every value. -/
def serializableEntries : List (Value × Value) → Bool
  | [] => true
  | (k, v) :: es => (text? k).isSome && serializable v && serializableEntries es

end

theorem serializableItems_eq_all (vs : List Value) :
    serializableItems vs = vs.all serializable := by
  induction vs with
  | nil => rfl
  | cons v vs ih => simp [serializableItems, ih]

theorem serializableEntries_eq_all (es : List (Value × Value)) :
    serializableEntries es = es.all fun e => (text? e.1).isSome && serializable e.2 := by
  induction es with
  | nil => rfl
  | cons e es ih => simp [serializableEntries, ih]

end Value

namespace Entries

/-- The entries that a file can keep, in order; keys are not looked at. -/
def keep (es : Entries) : Entries := es.filter fun e => e.2.serializable

/-- The entries that a file cannot keep, in order. -/
def skipped (es : Entries) : Entries := es.filter fun e => !e.2.serializable

theorem mem_keep {es : Entries} {e : Value × Value} :
    e ∈ keep es ↔ e ∈ es ∧ e.2.serializable = true := by
  simp [keep]

theorem keep_keep (es : Entries) : keep (keep es) = keep es := by
  simp [keep]

end Entries

end Tiered
