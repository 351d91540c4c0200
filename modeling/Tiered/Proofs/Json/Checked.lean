import Mathlib
import Tiered.Proofs.Json.Refused

/-!
# Checked — what a file can keep and what the writer accepts

Whether a file can keep a value is found out by a walk through the value, and the writer walks
through it on its own.  Without names for numbers that are not finite, and without displays in the
place of forms (`Style.strict`), the two come to the same but for keys: the writer also accepts keys
that are no texts.

* `exists_writeAt_and_textKeyed_iff`: the values under texts (`Value.TextKeyed`) that the writer
  accepts are those that a file can keep and whose whole numbers are not too long.
* `serializable_iff_written`: so the check decides what the writer accepts, where no whole number is
  too long.
-/

namespace Tiered

namespace Value

mutual

/-- At every depth of the value, the keys of tables are texts. -/
def TextKeyed : Value → Prop
  | list items => TextKeyedItems items
  | tuple items => TextKeyedItems items
  | set members => TextKeyedItems members
  | table entries => Entries.TextKeys entries ∧ TextKeyedEntries entries
  | _ => True

/-- The values are under texts. -/
def TextKeyedItems : List Value → Prop
  | [] => True
  | v :: vs => TextKeyed v ∧ TextKeyedItems vs

/-- The values of the entries are under texts. -/
def TextKeyedEntries : List (Value × Value) → Prop
  | [] => True
  | (_, v) :: es => TextKeyed v ∧ TextKeyedEntries es

end

theorem textKeyedItems_iff {vs : List Value} : TextKeyedItems vs ↔ ∀ v ∈ vs, TextKeyed v := by
  induction vs with
  | nil => simp [TextKeyedItems]
  | cons v vs ih => simp [TextKeyedItems, ih]

theorem textKeyedEntries_iff {es : Entries} :
    TextKeyedEntries es ↔ ∀ e ∈ es, TextKeyed e.2 := by
  induction es with
  | nil => simp [TextKeyedEntries]
  | cons e es ih => simp only [TextKeyedEntries, ih, List.forall_mem_cons]

end Value

namespace Json

/-- The style, but with finite numbers only, and only for values that JSON has a form for. -/
def Style.strict (style : Style) : Style := { style with nonFinite := false, displayed := false }

@[simp] theorem Style.nonFinite_strict (style : Style) : style.strict.nonFinite = false := rfl

@[simp] theorem Style.displayed_strict (style : Style) : style.strict.displayed = false := rfl

/-- The style of files is strict as it is. -/
example : Style.indented.strict = .indented := rfl

section Strict

variable {style : Style} {depth : Nat}

theorem exists_floatText_strict_iff {x : Number.Double} :
    (∃ cs, floatText style.strict x = .ok cs) ↔ x.isFinite = true := by
  rw [floatText, Style.nonFinite_strict, Bool.false_or]
  cases x.isFinite <;> simp

/-- What an entry comes to, for its key and its value. -/
theorem exists_entry_and_textKeyed_iff {e : Value × Value}
    (ih : (∃ p, writeAt style.strict depth e.2 = .ok p) ∧ e.2.TextKeyed ↔
      e.2.serializable = true ∧ e.2.Spellable) :
    ((∃ key, keyText style.strict e.1 = .ok key) ∧ ∃ p, writeAt style.strict depth e.2 = .ok p) ∧
        (∃ t, e.1 = .text t) ∧ e.2.TextKeyed ↔
      ((Value.text? e.1).isSome && e.2.serializable) = true ∧ e.2.Spellable := by
  rw [Bool.and_eq_true, Value.isSome_text?_iff, and_assoc (a := ∃ t, e.1 = .text t), ← ih]
  constructor
  · rintro ⟨⟨-, hp⟩, ht, hv⟩
    exact ⟨ht, hp, hv⟩
  · rintro ⟨⟨t, ht⟩, hp, hv⟩
    -- a text is written as it is
    exact ⟨⟨⟨t, by rw [ht, keyText]⟩, hp⟩, ⟨t, ht⟩, hv⟩

/-- **What the writer accepts under texts** is what a file can keep, with whole numbers that are not
too long. -/
theorem exists_writeAt_and_textKeyed_iff {v : Value} :
    (∃ p, writeAt style.strict depth v = .ok p) ∧ v.TextKeyed ↔
      v.serializable = true ∧ v.Spellable := by
  induction v using Value.nested generalizing depth with
  | none | bool _ | text _ => exact ⟨fun _ => ⟨rfl, trivial⟩, fun _ => ⟨⟨_, rfl⟩, trivial⟩⟩
  | int n =>
      simp only [writeAt_int, exists_intText_iff, Value.TextKeyed, Value.serializable,
        Value.Spellable, and_true, true_and]
  | float x =>
      rw [writeAt, exists_floatText_strict_iff]
      rfl
  | list items ih | tuple items ih =>
      simp only [writeAt, exists_map_iff, exists_writeItems_iff, Value.TextKeyed,
        Value.textKeyedItems_iff, Value.serializable_list, Value.serializable_tuple,
        List.all_eq_true, Value.Spellable, Value.spellableItems_iff, ← forall₂_and]
      exact forall₂_congr fun v hv => ih v hv
  | table entries ih =>
      simp only [writeAt, exists_map_iff, exists_writeEntries_iff, Value.TextKeyed,
        Value.textKeyedEntries_iff, Entries.TextKeys, Value.serializable_table, List.all_eq_true,
        Value.Spellable, Value.spellableEntries_iff, ← forall₂_and]
      exact forall₂_congr fun e he => exists_entry_and_textKeyed_iff (ih e he).2
  | octets _ | set _ _ | foreign _ | notFound =>
      simp [writeAt, displayText_of_not_displayed style.displayed_strict, Value.serializable]

/-- **The check and the writer accept the same values.**  Let no whole number in a value be too
long.  Then a file can keep the value exactly when the writer accepts it, in whatever style, with
finite numbers only, and every key at every depth of it is a text. -/
theorem serializable_iff_written (style : Style) {v : Value} (hv : v.Spellable) :
    v.serializable = true ↔ (∃ cs, write style.strict v = .ok cs) ∧ v.TextKeyed := by
  rw [write, exists_writeAt_and_textKeyed_iff, and_iff_left hv]

/-- A value within a tuple, under a key in a table within a list. -/
def housed (k v : Value) : Value := .list [.table [(k, .tuple [v])], .text "a"]

theorem spellable_housed {k v : Value} (hv : v.Spellable) : (housed k v).Spellable := by
  simp [housed, Value.Spellable, Value.SpellableItems, Value.SpellableEntries, hv]

theorem textKeyed_housed {k v : Value} :
    (housed k v).TextKeyed ↔ (∃ t, k = .text t) ∧ v.TextKeyed := by
  simp [housed, Value.TextKeyed, Value.TextKeyedItems, Value.TextKeyedEntries, Entries.TextKeys]

/-- Under a text, a truth value is written and kept.  Under another truth value it is written and
not kept.  The mark for absence is not written, though it stands under a text. -/
theorem serializable_iff_written_housed :
    (∃ cs, write Style.spaced.strict (housed (.text "k") (.bool false)) = .ok cs) ∧
      (∃ cs, write Style.spaced.strict (housed (.bool true) (.bool false)) = .ok cs) ∧
      (housed (.bool true) (.bool false)).serializable = false ∧
      ¬ ∃ cs, write Style.spaced.strict (housed (.text "k") .notFound) = .ok cs := by
  have htruth : ∀ k, (housed k (.bool false)).Spellable := fun _ => spellable_housed trivial
  have habsent : (housed (.text "k") .notFound).Spellable := spellable_housed trivial
  refine ⟨((serializable_iff_written .spaced (htruth _)).1 rfl).1, ⟨_, rfl⟩, ?_, fun hwritten => ?_⟩
  · rw [← Bool.not_eq_true, serializable_iff_written .spaced (htruth _), textKeyed_housed]
    rintro ⟨-, ⟨t, ht⟩, -⟩
    cases ht
  · have hkeyed : (housed (.text "k") .notFound).TextKeyed :=
      textKeyed_housed.2 ⟨⟨_, rfl⟩, trivial⟩
    have hkept := (serializable_iff_written .spaced habsent).2 ⟨hwritten, hkeyed⟩
    exact absurd hkept (by decide)

end Strict

end Json

end Tiered
