import Mathlib
import Tiered.Proofs.Json.Written

/-!
# Refused — what has no text, and why

The writer refuses a list or a table because of one of its parts (`exists_of_writeItems_error`,
`exists_of_writeEntries_error`).  So what a refusal says of a value comes down to what is said of
numbers, of keys and of the kinds that JSON does not have.

* `refusal_of_writeAt`: a whole number is too long, or a file cannot keep the value and JSON has no
  form for a part of it (`Refusal.Formless`).
* `exists_writeAt_iff_writable`: in a style with names for the numbers that are not finite, which
  values have a text at all (`Value.Writable`).
-/

namespace Tiered

namespace Value

/-- JSON with names for all numbers has a text for the key: a text, nothing, a truth value, a
number that is not whole, or a whole one that is not too long. -/
def WritableKey : Value → Prop
  | none | bool _ | float _ | text _ => True
  | int n => (Number.Decimal.digits n.natAbs).length ≤ Number.Decimal.maxDigits
  | _ => False

mutual

/-- At every depth, JSON with names for all numbers has a form for the value: there are no sets, no
octets, no foreign things and no mark for absence, whole numbers are not too long, and keys have
texts. -/
def Writable : Value → Prop
  | none | bool _ | float _ | text _ => True
  | int n => (Number.Decimal.digits n.natAbs).length ≤ Number.Decimal.maxDigits
  | list items => WritableItems items
  | tuple items => WritableItems items
  | table entries => WritableEntries entries
  | _ => False

/-- The values are writable. -/
def WritableItems : List Value → Prop
  | [] => True
  | v :: vs => Writable v ∧ WritableItems vs

/-- The keys and the values of the entries are writable. -/
def WritableEntries : List (Value × Value) → Prop
  | [] => True
  | (k, v) :: es => (WritableKey k ∧ Writable v) ∧ WritableEntries es

end

theorem writableItems_iff {vs : List Value} : WritableItems vs ↔ ∀ v ∈ vs, Writable v := by
  induction vs with
  | nil => simp [WritableItems]
  | cons v vs ih => simp [WritableItems, ih]

theorem writableEntries_iff {es : Entries} :
    WritableEntries es ↔ ∀ e ∈ es, WritableKey e.1 ∧ Writable e.2 := by
  induction es with
  | nil => simp [WritableEntries]
  | cons e es ih => simp only [WritableEntries, ih, List.forall_mem_cons]

/-- A power of ten with more digits than are converted, and what is greater, has no text. -/
theorem not_spellable_of_le {n : Nat} (h : 10 ^ Number.Decimal.maxDigits ≤ n) :
    ¬ (Value.int n).Spellable := by
  rw [Spellable, Int.natAbs_natCast, Number.Decimal.length_digits_le_iff (by decide)]
  exact Nat.not_lt.2 h

end Value

namespace Json

variable {style : Style} {depth : Nat} {refusal : Refusal}

/-! ### Where a refusal comes from -/

/-- A list is refused because of one of its items. -/
theorem exists_of_writeItems_error {vs : List Value}
    (h : writeItems style depth vs = .error refusal) :
    ∃ v ∈ vs, writeAt style depth v = .error refusal := by
  induction vs with
  | nil => exact absurd h (by simp [writeItems])
  | cons v vs ih =>
      rw [writeItems, bind_eq_error_iff] at h
      rcases h with hv | ⟨p, -, hvs⟩
      · exact ⟨v, List.mem_cons_self, hv⟩
      · obtain ⟨w, hw, hrefused⟩ := ih (map_eq_error_iff.1 hvs)
        exact ⟨w, List.mem_cons_of_mem v hw, hrefused⟩

/-- A table is refused because of one of its keys or one of its values. -/
theorem exists_of_writeEntries_error {es : Entries}
    (h : writeEntries style depth es = .error refusal) :
    ∃ e ∈ es, keyText style e.1 = .error refusal ∨ writeAt style depth e.2 = .error refusal := by
  induction es with
  | nil => exact absurd h (by simp [writeEntries])
  | cons e es ih =>
      simp only [writeEntries, bind_eq_error_iff, map_eq_error_iff] at h
      rcases h with hk | ⟨key, -, hv | ⟨p, -, hes⟩⟩
      · exact ⟨e, List.mem_cons_self, .inl hk⟩
      · exact ⟨e, List.mem_cons_self, .inr hv⟩
      · obtain ⟨f, hf, hrefused⟩ := ih hes
        exact ⟨f, List.mem_cons_of_mem e hf, hrefused⟩

theorem overlong_of_intText {n : Int} (h : intText n = .error refusal) : refusal = .overlong := by
  delta intText at h
  revert h
  cases Number.Decimal.text? n <;> simp [eq_comm]

/-! ### What a refusal says -/

/-- The refusal is of a value or a key of a kind without a form, or of a number that is not finite
in a style without names for such numbers. -/
def Refusal.Formless (style : Style) : Refusal → Prop
  | .unserializable _ | .badKey _ => True
  | .nonFinite _ => style.nonFinite = false
  | .overlong => False

theorem refusal_of_floatText {x : Number.Double} (h : floatText style x = .error refusal) :
    x.isFinite = false ∧ refusal.Formless style := by
  rw [floatText] at h
  split_ifs at h with hnamed
  obtain ⟨hstyle, hx⟩ := Bool.or_eq_false_iff.1 (Bool.not_eq_true _ ▸ hnamed)
  rw [← Except.error.inj h]
  exact ⟨hx, hstyle⟩

theorem refusal_of_displayText {v : Value} (h : displayText style v = .error refusal) :
    refusal = .overlong ∨ refusal.Formless style := by
  rw [displayText] at h
  split_ifs at h
  · split at h
    · exact absurd h (by simp)
    · exact .inl (Except.error.inj h).symm
  · rw [← Except.error.inj h]
    exact .inr trivial

theorem refusal_of_keyText {k : Value} (h : keyText style k = .error refusal) :
    refusal = .overlong ∨ (Value.text? k).isSome = false ∧ refusal.Formless style := by
  cases k with
  | text _ | none | bool _ => exact absurd h (by simp [keyText])
  | int n =>
      rw [keyText, map_eq_error_iff] at h
      exact .inl (overlong_of_intText h)
  | float x =>
      rw [keyText, map_eq_error_iff] at h
      exact .inr ⟨rfl, (refusal_of_floatText h).2⟩
  | octets _ | list _ | tuple _ | set _ | table _ | foreign _ | notFound =>
      obtain rfl := Except.error.inj h
      exact .inr ⟨rfl, trivial⟩

/-- **What a refusal says**: a whole number is too long, or a file cannot keep the value, and there
is no form for a part of it. -/
theorem refusal_of_writeAt {v : Value} (h : writeAt style depth v = .error refusal) :
    refusal = .overlong ∨ v.serializable = false ∧ refusal.Formless style := by
  induction v using Value.nested generalizing depth with
  | none | bool _ | text _ => exact absurd h (by simp [writeAt])
  | int n => exact .inl (overlong_of_intText ((writeAt_int style depth n).symm.trans h))
  | float x =>
      rw [writeAt] at h
      exact .inr (refusal_of_floatText h)
  | list items ih | tuple items ih =>
      obtain ⟨v, hmem, hrefused⟩ := exists_of_writeItems_error (map_eq_error_iff.1 h)
      refine (ih v hmem hrefused).imp_right fun hv => ⟨?_, hv.2⟩
      simp only [Value.serializable_list, Value.serializable_tuple, List.all_eq_false]
      exact ⟨v, hmem, by simp [hv.1]⟩
  | table entries ih =>
      obtain ⟨e, he, hkey | hrefused⟩ := exists_of_writeEntries_error (map_eq_error_iff.1 h)
      · refine (refusal_of_keyText hkey).imp_right fun hk => ⟨?_, hk.2⟩
        rw [Value.serializable_table, List.all_eq_false]
        exact ⟨e, he, by simp [hk.1]⟩
      · refine ((ih e he).2 hrefused).imp_right fun hv => ⟨?_, hv.2⟩
        rw [Value.serializable_table, List.all_eq_false]
        exact ⟨e, he, by simp [hv.1]⟩
  | octets _ | set _ _ | foreign _ | notFound =>
      rw [writeAt] at h
      exact (refusal_of_displayText h).imp_right fun hr => ⟨rfl, hr⟩

/-- **What a file can keep is refused for a whole number that is too long, and for nothing
else.** -/
theorem overlong_of_serializable {v : Value} (hv : v.serializable = true)
    (h : writeAt style depth v = .error refusal) : refusal = .overlong :=
  (refusal_of_writeAt h).resolve_right fun hr => by simp [hv] at hr

/-! ### Styles with names for all numbers -/

section Named

theorem floatText_of_named (hstyle : style.nonFinite = true) (x : Number.Double) :
    floatText style x = .ok (numberLayout.text x) := by
  rw [floatText, hstyle, Bool.true_or, if_pos rfl]

theorem displayText_of_not_displayed (hdisplayed : style.displayed = false) (v : Value) :
    displayText style v = .error (.unserializable v.kind) := by
  rw [displayText, hdisplayed, if_neg Bool.false_ne_true]

variable (hstyle : style.nonFinite = true)
include hstyle

theorem exists_keyText_iff_writableKey {k : Value} :
    (∃ key, keyText style k = .ok key) ↔ k.WritableKey := by
  cases k with
  | text _ | none | bool _ => exact ⟨fun _ => trivial, fun _ => ⟨_, rfl⟩⟩
  | int n => rw [keyText, exists_map_iff, exists_intText_iff, Value.WritableKey]
  | float x =>
      rw [keyText, floatText_of_named hstyle]
      exact ⟨fun _ => trivial, fun _ => ⟨_, rfl⟩⟩
  | octets _ | list _ | tuple _ | set _ | table _ | foreign _ | notFound =>
      simp [keyText, Value.WritableKey]

variable (hdisplayed : style.displayed = false)
include hdisplayed

/-- **Which values have a text** in a style with names for all numbers. -/
theorem exists_writeAt_iff_writable {v : Value} :
    (∃ p, writeAt style depth v = .ok p) ↔ v.Writable := by
  induction v using Value.nested generalizing depth with
  | none | bool _ | text _ => exact ⟨fun _ => trivial, fun _ => ⟨_, rfl⟩⟩
  | int n => rw [writeAt_int, exists_intText_iff, Value.Writable]
  | float x =>
      rw [writeAt, floatText_of_named hstyle]
      exact ⟨fun _ => trivial, fun _ => ⟨_, rfl⟩⟩
  | list items ih | tuple items ih =>
      simp only [writeAt, exists_map_iff, exists_writeItems_iff, Value.Writable,
        Value.writableItems_iff]
      exact forall₂_congr fun v hv => ih v hv
  | table entries ih =>
      simp only [writeAt, exists_map_iff, exists_writeEntries_iff, Value.Writable,
        Value.writableEntries_iff]
      exact forall₂_congr fun e he =>
        and_congr (exists_keyText_iff_writableKey hstyle) (ih e he).2
  | octets _ | set _ _ | foreign _ | notFound =>
      simp [writeAt, displayText_of_not_displayed hdisplayed, Value.Writable]

end Named

end Json

end Tiered
