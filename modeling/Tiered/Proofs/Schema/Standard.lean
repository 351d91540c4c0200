import Mathlib
import Tiered.Proofs.Json.RoundTrip
import Tiered.Proofs.Json.Written
import Tiered.Proofs.Schema.Field

/-!
# Standard — the library that the program runs with

The library that the program runs with does what is relied on (`Validator.lawful_standard`).  Texts
and truth values are read as they are.  A JSON object of fields that hold truth values and texts of
characters is read as the table of these fields (`read_object`), for what is no character is all
that would be lost in a literal of any characters.
-/

namespace Tiered.Validator

variable {fields : List (String × Value)}

theorem textKeys_ofFields (fields : List (String × Value)) :
    (Entries.ofFields fields).TextKeys := List.forall_mem_map.2 fun f _ => ⟨f.1, rfl⟩

theorem distinct_ofFields (h : (fields.map Prod.fst).Nodup) :
    (Entries.ofFields fields).Distinct := by
  rw [Entries.Distinct, Entries.ofFields, List.pairwise_map]
  rw [List.Nodup, List.pairwise_map] at h
  refine h.imp fun {f g} hne => ?_
  rw [Value.equals_text, beq_eq_false_iff_ne, Ne, Text.ofString_inj]
  exact hne

theorem spelt_ofChars (cs : List Char) :
    Json.Literal.spelt false (.ofChars cs) = .ofChars cs := by
  rw [Json.Literal.spelt, if_neg Bool.false_ne_true, Text.chars_ofChars]

section Portable

variable {v : Value}

theorem writable_of_portable (h : v.Portable) : writable v = true := by
  cases h with
  | bool b => rfl
  | text cs => simp [writable, Text.chars?_ofChars]

theorem serializable_of_portable (h : v.Portable) : v.serializable = true := by
  cases h <;> rfl

theorem spellable_of_portable (h : v.Portable) : v.Spellable := by
  cases h <;> trivial

/-- The text of a value that is portable is read as the value. -/
theorem reads_portable (h : v.Portable) {depth : Nat} {p : List Char}
    (hp : Json.writeAt .dense depth v = .ok p) : Json.Reads p v := by
  cases h with
  | bool b =>
      obtain rfl := Except.ok.inj hp
      exact Json.reads_bool b
  | text cs =>
      obtain rfl := Except.ok.inj hp
      have hreads := Json.reads_literal false (.ofChars cs)
      rwa [spelt_ofChars] at hreads

end Portable

/-- **The object of portable fields is written, and read as the table of them.** -/
theorem read_object (hnames : (fields.map Prod.fst).Nodup) (h : ∀ f ∈ fields, f.2.Portable) :
    ∃ cs, object fields = some cs ∧ Json.read cs = .ok (.table (Entries.ofFields fields)) := by
  have hportable : ∀ e ∈ Entries.ofFields fields, e.2.Portable := List.forall_mem_map.2 h
  have hserializable : (Value.table (Entries.ofFields fields)).serializable = true := by
    rw [Entries.serializable_table_iff, Entries.keep, List.filter_eq_self]
    exact ⟨textKeys_ofFields fields, fun e he => serializable_of_portable (hportable e he)⟩
  have hspellable : (Value.table (Entries.ofFields fields)).Spellable :=
    Value.spellableEntries_iff.2 fun e he => spellable_of_portable (hportable e he)
  obtain ⟨cs, hcs⟩ : ∃ cs, Json.write .dense (.table (Entries.ofFields fields)) = .ok cs :=
    (Json.exists_writeAt_iff hserializable).2 hspellable
  have hall : (fields.all fun f => writable f.2) = true :=
    List.all_eq_true.2 fun f hf => writable_of_portable (h f hf)
  refine ⟨cs, by rw [object, if_pos hall, hcs]; rfl, ?_⟩
  -- each entry is read as it is, and no name is there twice
  obtain ⟨ps, hps, rfl⟩ := map_eq_ok_iff.1 hcs
  have hreads : List.Forall₂ (Json.ReadsEntry .dense) ps (Entries.ofFields fields) := by
    refine List.Forall₂.flip (((List.forall₂_and_left _ _).2
      ⟨fun _ => id, Json.writeEntries_eq_ok_iff.1 hps⟩).imp ?_)
    rintro e p ⟨he, key, q, hkey, hq, rfl⟩
    obtain ⟨f, hf, rfl⟩ := List.mem_map.1 he
    obtain rfl := Except.ok.inj hkey
    exact ⟨f.1, q, congrArg Value.text (spelt_ofChars f.1.toList).symm,
      reads_portable (h f hf) hq, rfl⟩
  have hblank : Json.Style.dense.Blank := ⟨by simp [Json.Style.dense], by simp [Json.Style.dense]⟩
  have hread := Json.read_of_reads (Json.reads_table hblank 0 hreads)
  rwa [Entries.putAll_nil (distinct_ofFields hnames)] at hread

/-- **The library that the program runs with does what is relied on.** -/
theorem lawful_standard : Validator.Lawful where
  text_text _ := rfl
  flag_bool _ := rfl
  field_absent absent read h := by simp only [Validator.field, Schema.field, h]
  field_given absent read h := by simp only [Validator.field, Schema.field, h]
  ofValue_table _ _ _ _ := rfl
  ofJson_toJson hnames h := by
    obtain ⟨cs, hwritten, hread⟩ := read_object hnames h
    refine ⟨cs, hwritten, fun title make _ => ?_⟩
    show objectOnly title make cs = _
    rw [objectOnly, hread]

end Tiered.Validator
