import Tiered.Value.Equality

/-!
# Entries — ordered tables

An entry is found by a key equal to its own.  Writing under a key that is there changes the value
and keeps the entry's place and key; writing under a new key adds an entry at the end.  The laws
below say what each operation does to look-up (`get?`) and to the keys in order (`keys`).

A key is a value here, made anew for every call: one that differs from itself is never found again.
Where a call is given the key itself that was written, it is found (`Tiered.Keyed`).
-/

namespace Tiered.Entries

/-- The keys in order. -/
def keys (es : Entries) : List Value := es.map Prod.fst

/-- The value under a key. -/
def get? (es : Entries) (k : Value) : Option Value :=
  (es.find? fun e => e.1.equals k).map Prod.snd

/-- The key is there. -/
def contains (es : Entries) (k : Value) : Bool := (get? es k).isSome

/-- The entries with the value written under the key. -/
def put : Entries → Value → Value → Entries
  | [], k, v => [(k, v)]
  | e :: es, k, v => if e.1.equals k then (e.1, v) :: es else e :: put es k v

/-- The entries with others written into them, in order. -/
def putAll (es fs : Entries) : Entries := fs.foldl (fun acc e => put acc e.1 e.2) es

/-- The table that a row of pairs makes: a later pair with an equal key gives the value, the first
one the place and the key. -/
def ofPairs (pairs : List (Value × Value)) : Entries := putAll [] pairs

/-- Entries under texts. -/
def ofFields (fields : List (String × Value)) : Entries :=
  fields.map fun f => (.text f.1, f.2)

/-- Every key is a text. -/
def TextKeys (es : Entries) : Prop := ∀ e ∈ es, ∃ t, e.1 = .text t

theorem get?_nil (k : Value) : get? [] k = none := rfl

theorem get?_cons (e : Value × Value) (es : Entries) (k : Value) :
    get? (e :: es) k = if e.1.equals k then some e.2 else get? es k := by
  simp only [get?, List.find?_cons]
  cases e.1.equals k <;> simp

theorem put_nil (k v : Value) : put [] k v = [(k, v)] := rfl

/-- What was written under a text is found there. -/
theorem get?_put_self (es : Entries) (s : Text) (v : Value) :
    get? (put es (.text s) v) (.text s) = some v := by
  induction es with
  | nil => simp [put, get?_cons, Value.equals_text]
  | cons e es ih =>
    rw [put]
    cases h : e.1.equals (.text s) <;> simp [get?_cons, h, ih]

/-- Writing under one text leaves what stands under another. -/
theorem get?_put_of_ne {es : Entries} (hes : TextKeys es) {s t : Text} (h : s ≠ t) (v : Value) :
    get? (put es (.text s) v) (.text t) = get? es (.text t) := by
  induction es with
  | nil => simp [put, get?_cons, get?_nil, Value.equals_text, h]
  | cons e es ih =>
    obtain ⟨k, hk⟩ := hes e (by simp)
    have ih := ih fun f hf => hes f (by simp [hf])
    rw [put, hk, Value.equals_text]
    by_cases hs : k = s
    · simp [get?_cons, hs, hk, Value.equals_text, h]
    · simp [get?_cons, hs, hk, Value.equals_text, ih]

theorem textKeys_put {es : Entries} (hes : TextKeys es) (s : Text) (v : Value) :
    TextKeys (put es (.text s) v) := by
  induction es with
  | nil => simp [put, TextKeys]
  | cons e es ih =>
    have hrest : TextKeys es := fun f hf => hes f (by simp [hf])
    intro f hf
    rw [put] at hf
    split at hf
    · rcases List.mem_cons.1 hf with rfl | hf
      · exact hes e (by simp)
      · exact hrest f hf
    · rcases List.mem_cons.1 hf with rfl | hf
      · exact hes f (by simp)
      · exact ih hrest f hf

/-- A key that is there keeps its place; a new one goes last. -/
theorem keys_put (es : Entries) (k v : Value) :
    keys (put es k v) = if contains es k then keys es else keys es ++ [k] := by
  induction es with
  | nil => simp [put, keys, contains, get?]
  | cons e es ih =>
    simp only [keys, contains] at ih
    simp only [put, contains, get?_cons]
    cases h : e.1.equals k
    · simp only [Bool.false_eq_true, if_false, keys, List.map_cons, ih]
      by_cases hc : (get? es k).isSome = true <;> simp [hc]
    · simp [keys]

end Tiered.Entries
