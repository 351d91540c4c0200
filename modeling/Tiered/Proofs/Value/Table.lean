import Mathlib
import Tiered.Proofs.Value.Shape

/-!
# Table — tables under texts that are written entry by entry

A table is `Regular` when its keys are different texts and a file can spell what it can keep of its
values.  Writing under a text keeps a table regular (`Regular.put`), and writing a regular table
into the empty one, entry by entry, makes the same table (`putAll_nil`).  Written into another
table, its entries take the place of those that are there (`get?_putAll`).  What a file can keep of
a table, it can keep as a table exactly when that is under texts (`serializable_keep_iff`).
-/

namespace Tiered

/-- No table in the value has a key twice, and if a file can keep the value, its whole numbers have
a text. -/
structure Value.Regular (v : Value) : Prop where
  sound : v.Sound
  spellable : v.serializable = true → v.Spellable

namespace Entries

/-- A new key goes last. -/
theorem put_eq_append {es : Entries} {k : Value} (h : ∀ e ∈ es, e.1.equals k = false) (v : Value) :
    es.put k v = es ++ [(k, v)] := by
  induction es with
  | nil => rfl
  | cons e es ih =>
      rw [Entries.put, h e (by simp), if_neg Bool.false_ne_true,
        ih fun f hf => h f (by simp [hf]), List.cons_append]

theorem contains_eq_false_iff {es : Entries} {k : Value} :
    es.contains k = false ↔ ∀ e ∈ es, e.1.equals k = false := by
  simp [contains, get?]

theorem contains_text_iff {es : Entries} (hes : es.TextKeys) {name : Text} :
    es.contains (.text name) = true ↔ .text name ∈ es.keys := by
  rw [← not_iff_not, Bool.not_eq_true, contains_eq_false_iff, keys, List.mem_map]
  push Not
  refine forall₂_congr fun e he => ?_
  obtain ⟨t, ht⟩ := hes e he
  rw [ht, Value.equals_text, beq_eq_false_iff_ne, Ne, Ne, Value.text.injEq]

theorem get?_eq_none_iff {es : Entries} (hes : es.TextKeys) {name : Text} :
    es.get? (.text name) = none ↔ .text name ∉ es.keys := by
  rw [← contains_text_iff hes, contains, Bool.not_eq_true, Option.isSome_eq_false_iff,
    Option.isNone_iff_eq_none]

theorem distinct_iff_keys {es : Entries} :
    es.Distinct ↔ es.keys.Pairwise fun a b => a.equals b = false := by
  rw [Distinct, keys, List.pairwise_map]

theorem get?_of_mem {es : Entries} (h : es.Distinct) {t : Text} {v : Value}
    (hmem : (.text t, v) ∈ es) : es.get? (.text t) = some v := by
  induction es with
  | nil => exact absurd hmem List.not_mem_nil
  | cons e es ih =>
      obtain ⟨hnew, hothers⟩ := List.pairwise_cons.1 h
      rw [get?_cons]
      rcases List.mem_cons.1 hmem with rfl | hmem
      · rw [Value.equals_text, beq_self_eq_true, if_pos rfl]
      · rw [hnew _ hmem, if_neg Bool.false_ne_true, ih hothers hmem]

theorem distinct_put {es : Entries} (h : es.Distinct) (k v : Value) : (es.put k v).Distinct := by
  rw [distinct_iff_keys] at h ⊢
  rw [keys_put]
  split_ifs with hc
  · exact h
  · rw [Bool.not_eq_true, contains_eq_false_iff] at hc
    refine List.pairwise_append.2 ⟨h, List.pairwise_singleton _ _, ?_⟩
    simpa [keys] using hc

theorem distinct_putAll {es : Entries} (h : es.Distinct) (fs : Entries) :
    (es.putAll fs).Distinct := by
  induction fs generalizing es with
  | nil => exact h
  | cons f fs ih => exact ih (distinct_put h f.1 f.2)

/-- Under a text there is what was written or what was there. -/
theorem mem_put_text {es : Entries} {s : Text} {v : Value} {e : Value × Value}
    (h : e ∈ es.put (.text s) v) (hk : es.TextKeys) : e ∈ es ∨ e = (.text s, v) := by
  induction es with
  | nil => exact .inr (List.mem_singleton.1 h)
  | cons f es ih =>
      obtain ⟨t, ht⟩ := hk f (by simp)
      rw [put] at h
      split_ifs at h with he
      · rcases List.mem_cons.1 h with rfl | h
        · rw [ht, Value.equals_text, beq_iff_eq] at he
          exact .inr (by rw [ht, he])
        · exact .inl (List.mem_cons_of_mem _ h)
      · rcases List.mem_cons.1 h with rfl | h
        · exact .inl List.mem_cons_self
        · exact (ih h fun g hg => hk g (List.mem_cons_of_mem _ hg)).imp_left
            (List.mem_cons_of_mem _)

/-- Different texts are the keys, and the values are regular. -/
structure Regular (es : Entries) : Prop where
  texts : es.TextKeys
  distinct : es.Distinct
  values : ∀ e ∈ es, e.2.Regular

theorem regular_nil : Regular [] := ⟨by simp [TextKeys], List.Pairwise.nil, by simp⟩

/-- **Writing a regular value under a text keeps a table regular.** -/
theorem Regular.put {es : Entries} (h : es.Regular) (s : Text) {v : Value} (hv : v.Regular) :
    (es.put (.text s) v).Regular := by
  refine ⟨textKeys_put h.texts s v, distinct_put h.distinct _ v, fun e he => ?_⟩
  rcases mem_put_text he h.texts with he | rfl
  · exact h.values e he
  · exact hv

theorem putAll_eq_append {before es : Entries} (h : (before ++ es).Distinct) :
    before.putAll es = before ++ es := by
  induction es generalizing before with
  | nil => exact (List.append_nil before).symm
  | cons e es ih =>
      have hput : before.put e.1 e.2 = before ++ [e] := put_eq_append
        (fun f hf => (List.pairwise_append.1 h).2.2 f hf e List.mem_cons_self) e.2
      rw [List.append_cons] at h ⊢
      rw [← ih h, ← hput]
      rfl

/-- **Writing a table into the empty one makes the same table.** -/
theorem putAll_nil {es : Entries} (h : es.Distinct) : Entries.putAll [] es = es :=
  putAll_eq_append h

/-! ### Tables that a file can keep -/

section Serializable

variable {es : Entries}

theorem TextKeys.keep (h : es.TextKeys) : es.keep.TextKeys := fun e he => h e (mem_keep.1 he).1

theorem textKeys_listed : es.listed.TextKeys ↔ es.TextKeys := List.forall_mem_map

/-- A file can keep a table exactly when it is under texts and the file can keep every value. -/
theorem serializable_table_iff :
    (Value.table es).serializable = true ↔ es.TextKeys ∧ es.keep = es := by
  rw [Value.serializable_table, List.all_eq_true, TextKeys, Entries.keep, List.filter_eq_self,
    ← forall₂_and]
  simp only [Bool.and_eq_true, Value.isSome_text?_iff]

/-- **A file can keep what is kept of a table, as a table, exactly when it is under texts.** -/
theorem serializable_keep_iff : (Value.table es.keep).serializable = true ↔ es.keep.TextKeys := by
  rw [serializable_table_iff, keep_keep]
  exact and_iff_left rfl

theorem Regular.keep (h : es.Regular) : es.keep.Regular :=
  ⟨h.texts.keep, h.distinct.filter _, fun e he => h.values e (mem_keep.1 he).1⟩

end Serializable

/-! ### What is found behind the writing of many entries -/

/-- A table that does not hold a key does not hold it after the writing of entries that do not
either. -/
theorem contains_putAll_eq_false {es fs : Entries} {key : Value} (hes : es.contains key = false)
    (hfs : fs.contains key = false) : (es.putAll fs).contains key = false := by
  induction fs generalizing es with
  | nil => exact hes
  | cons f fs ih =>
      rw [contains_eq_false_iff, List.forall_mem_cons] at hfs
      refine ih ?_ (contains_eq_false_iff.2 hfs.2)
      rw [contains_eq_false_iff] at hes ⊢
      have hkeys : ∀ k ∈ es.keys, k.equals key = false := by
        rintro k hk
        obtain ⟨e, he, rfl⟩ := List.mem_map.1 hk
        exact hes e he
      have hput : ∀ k ∈ (es.put f.1 f.2).keys, k.equals key = false := by
        rw [keys_put]
        split_ifs
        · exact hkeys
        · exact List.forall_mem_append.2 ⟨hkeys, List.forall_mem_singleton.2 hfs.1⟩
      exact fun e he => hput e.1 (List.mem_map_of_mem he)

theorem textKeys_putAll {es fs : Entries} (hes : es.TextKeys) (hfs : fs.TextKeys) :
    (es.putAll fs).TextKeys := by
  induction fs generalizing es with
  | nil => exact hes
  | cons f fs ih =>
      obtain ⟨⟨t, ht⟩, hfs⟩ := List.forall_mem_cons.1 hfs
      have hput : (es.put f.1 f.2).TextKeys := by
        rw [ht]
        exact textKeys_put hes t f.2
      exact ih hput hfs

/-- **Under a text there is what was written last**, or what was there. -/
theorem get?_putAll {es fs : Entries} (hes : es.TextKeys) (hfs : fs.TextKeys)
    (hdistinct : fs.Distinct) (t : Text) :
    (es.putAll fs).get? (.text t) = (fs.get? (.text t)).or (es.get? (.text t)) := by
  induction fs generalizing es with
  | nil => rfl
  | cons f fs ih =>
      obtain ⟨key, v⟩ := f
      obtain ⟨⟨s, hs⟩, hrest⟩ := List.forall_mem_cons.1 hfs
      obtain ⟨hnew, hothers⟩ := List.pairwise_cons.1 hdistinct
      dsimp only at hs
      subst hs
      have hstep : es.putAll ((.text s, v) :: fs) = (es.put (.text s) v).putAll fs := rfl
      rw [hstep, ih (textKeys_put hes s v) hrest hothers, get?_cons, Value.equals_text]
      by_cases h : s = t
      · -- no later entry has the same key
        subst h
        have hnone : get? fs (.text s) = none := by
          rw [get?_eq_none_iff hrest]
          intro hmem
          obtain ⟨e, he, hsame⟩ := List.mem_map.1 hmem
          have hne := hnew e he
          rw [hsame, Value.equals_text, beq_self_eq_true] at hne
          exact absurd hne (by simp)
        rw [hnone, get?_put_self, beq_self_eq_true, if_pos rfl]
        rfl
      · rw [get?_put_of_ne hes h, beq_false_of_ne h, if_neg Bool.false_ne_true]

end Entries

end Tiered
