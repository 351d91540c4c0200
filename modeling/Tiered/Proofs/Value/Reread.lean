import Mathlib
import Tiered.Proofs.Text.Joined
import Tiered.Proofs.Value.Table

/-!
# Reread — values as their JSON text gives them back

A JSON text has no tuples, it escapes a pair of surrogates like the character that the pair stands
for, and of two entries under one key its reader takes the later value.  So a value comes back as
`Value.reread` says.

* `reread_reread`, `reread_eq_self_iff`: what comes back once comes back as it is, and nothing else
  does but values without tuples and without pairs (`Value.Unsplit`).
* `reread_eq_listed_iff`: where a value holds no pair, and only there, no more is changed than that
  tuples are lists.
-/

namespace Tiered

namespace Entries

variable {P Q : Value → Prop}

/-- What holds of all keys and of all values still does once an entry is written. -/
theorem forall_mem_put {es : Entries} (h : ∀ e ∈ es, P e.1 ∧ Q e.2) {k v : Value} (hk : P k)
    (hv : Q v) : ∀ e ∈ es.put k v, P e.1 ∧ Q e.2 := by
  induction es with
  | nil => exact List.forall_mem_singleton.2 ⟨hk, hv⟩
  | cons f es ih =>
      obtain ⟨hf, hes⟩ := List.forall_mem_cons.1 h
      rw [put]
      split_ifs
      · exact List.forall_mem_cons.2 ⟨⟨hf.1, hv⟩, hes⟩
      · exact List.forall_mem_cons.2 ⟨hf, ih hes⟩

theorem forall_mem_putAll {es fs : Entries} (hes : ∀ e ∈ es, P e.1 ∧ Q e.2)
    (hfs : ∀ e ∈ fs, P e.1 ∧ Q e.2) : ∀ e ∈ es.putAll fs, P e.1 ∧ Q e.2 := by
  induction fs generalizing es with
  | nil => exact hes
  | cons f fs ih =>
      obtain ⟨hf, hrest⟩ := List.forall_mem_cons.1 hfs
      exact ih (forall_mem_put hes hf.1 hf.2) hrest

theorem forall_mem_ofPairs {ps : List (Value × Value)} (h : ∀ e ∈ ps, P e.1 ∧ Q e.2) :
    ∀ e ∈ ofPairs ps, P e.1 ∧ Q e.2 := forall_mem_putAll (List.forall_mem_nil _) h

theorem distinct_ofPairs (ps : List (Value × Value)) : (ofPairs ps).Distinct :=
  distinct_putAll List.Pairwise.nil ps

theorem ofPairs_of_distinct {es : Entries} (h : es.Distinct) : ofPairs es = es := putAll_nil h

end Entries

namespace Value

/-- A key as a reader has it: in a text pairs are joined. -/
def joinedKey : Value → Value
  | text t => text t.joined
  | k => k

mutual

/-- The value as its JSON text gives it back. -/
def reread : Value → Value
  | text t => text t.joined
  | list items => list (rereadItems items)
  | tuple items => list (rereadItems items)
  | table entries => table (Entries.ofPairs (rereadEntries entries))
  | v => v

/-- The values as their JSON texts give them back. -/
def rereadItems : List Value → List Value
  | [] => []
  | v :: vs => reread v :: rereadItems vs

/-- The entries as their JSON texts give them back, one by one. -/
def rereadEntries : List (Value × Value) → List (Value × Value)
  | [] => []
  | (k, v) :: es => (joinedKey k, reread v) :: rereadEntries es

end

theorem rereadItems_eq (vs : List Value) : rereadItems vs = vs.map reread := by
  induction vs with
  | nil => rfl
  | cons v vs ih => rw [rereadItems, ih, List.map_cons]

theorem rereadEntries_eq (es : Entries) :
    rereadEntries es = es.map fun e => (joinedKey e.1, reread e.2) := by
  induction es with
  | nil => rfl
  | cons e es ih => rw [rereadEntries, ih, List.map_cons]

@[simp] theorem reread_list (vs : List Value) : (list vs).reread = list (vs.map reread) := by
  rw [reread, rereadItems_eq]

@[simp] theorem reread_tuple (vs : List Value) : (tuple vs).reread = list (vs.map reread) := by
  rw [reread, rereadItems_eq]

end Value

/-- The entries as the JSON text of their table gives them back. -/
def Entries.reread (es : Entries) : Entries :=
  Entries.ofPairs (es.map fun e => (e.1.joinedKey, e.2.reread))

namespace Value

@[simp] theorem reread_table (es : Entries) : (table es).reread = table es.reread := by
  rw [reread, rereadEntries_eq, Entries.reread]

/-! ### Values without pairs -/

/-- No pair is in a key that is a text. -/
def UnsplitKey : Value → Prop
  | text t => t.Unsplit
  | _ => True

mutual

/-- At every depth of lists, tuples and tables, no text holds a pair, and no key does. -/
def Unsplit : Value → Prop
  | text t => t.Unsplit
  | list items => UnsplitItems items
  | tuple items => UnsplitItems items
  | table entries => UnsplitEntries entries
  | _ => True

/-- The values hold no pair. -/
def UnsplitItems : List Value → Prop
  | [] => True
  | v :: vs => Unsplit v ∧ UnsplitItems vs

/-- The keys and values of the entries hold no pair. -/
def UnsplitEntries : List (Value × Value) → Prop
  | [] => True
  | (k, v) :: es => (UnsplitKey k ∧ Unsplit v) ∧ UnsplitEntries es

end

theorem unsplitItems_iff {vs : List Value} : UnsplitItems vs ↔ ∀ v ∈ vs, Unsplit v := by
  induction vs with
  | nil => simp [UnsplitItems]
  | cons v vs ih => simp [UnsplitItems, ih]

theorem unsplitEntries_iff {es : Entries} :
    UnsplitEntries es ↔ ∀ e ∈ es, UnsplitKey e.1 ∧ Unsplit e.2 := by
  induction es with
  | nil => simp [UnsplitEntries]
  | cons e es ih => simp only [UnsplitEntries, ih, List.forall_mem_cons]

theorem unsplit_table_iff {es : Entries} :
    (table es).Unsplit ↔ ∀ e ∈ es, UnsplitKey e.1 ∧ Unsplit e.2 := unsplitEntries_iff

theorem unsplitKey_joinedKey (k : Value) : UnsplitKey k.joinedKey := by
  cases k with
  | text t => exact Text.unsplit_joined t
  | _ => trivial

theorem joinedKey_of_unsplitKey {k : Value} (h : UnsplitKey k) : k.joinedKey = k := by
  cases k with
  | text t => exact congrArg text (Text.joined_of_unsplit h)
  | _ => rfl

theorem sound_joinedKey {k : Value} (h : k.Sound) : k.joinedKey.Sound := by
  cases k with
  | text t => trivial
  | _ => exact h

/-! ### What comes back -/

/-- What comes back holds no pair. -/
theorem unsplit_reread (v : Value) : v.reread.Unsplit := by
  induction v using nested with
  | text t => exact Text.unsplit_joined t
  | list items ih | tuple items ih =>
      simp only [reread_list, reread_tuple, Unsplit, unsplitItems_iff, List.forall_mem_map]
      exact ih
  | table entries ih =>
      rw [reread_table, unsplit_table_iff]
      exact Entries.forall_mem_ofPairs (List.forall_mem_map.2 fun e he =>
        ⟨unsplitKey_joinedKey e.1, (ih e he).2⟩)
  | _ => trivial

/-- What comes back holds no tuple. -/
theorem tupleFree_reread (v : Value) : v.reread.TupleFree := by
  induction v using nested with
  | list items ih | tuple items ih =>
      simp only [reread_list, reread_tuple, TupleFree, tupleFreeItems_iff, List.forall_mem_map]
      exact ih
  | table entries ih =>
      rw [reread_table, TupleFree, tupleFreeEntries_iff]
      exact fun e he => (Entries.forall_mem_ofPairs (P := fun _ => True)
        (List.forall_mem_map.2 fun e he => ⟨trivial, (ih e he).2⟩) e he).2
  | _ => trivial

theorem sound_reread {v : Value} (h : v.Sound) : v.reread.Sound := by
  induction v using nested with
  | list items ih | tuple items ih =>
      simp only [Sound, reread_list, reread_tuple, soundItems_iff, List.forall_mem_map] at h ⊢
      exact fun v hv => ih v hv (h v hv)
  | table entries ih =>
      rw [Sound, soundEntries_iff] at h
      rw [reread_table, Sound, soundEntries_iff]
      exact ⟨Entries.distinct_ofPairs _, Entries.forall_mem_ofPairs (List.forall_mem_map.2
        fun e he => ⟨sound_joinedKey (h.2 e he).1, (ih e he).2 (h.2 e he).2⟩)⟩
  | _ => exact h

theorem spellable_reread {v : Value} (h : v.Spellable) : v.reread.Spellable := by
  induction v using nested with
  | list items ih | tuple items ih =>
      simp only [Spellable, reread_list, reread_tuple, spellableItems_iff, List.forall_mem_map]
        at h ⊢
      exact fun v hv => ih v hv (h v hv)
  | table entries ih =>
      rw [Spellable, spellableEntries_iff] at h
      rw [reread_table, Spellable, spellableEntries_iff]
      exact fun e he => (Entries.forall_mem_ofPairs (P := fun _ => True)
        (List.forall_mem_map.2 fun e he => ⟨trivial, (ih e he).2 (h e he)⟩) e he).2
  | _ => exact h

/-- What comes back of a value that a file can keep, a file can keep. -/
theorem serializable_reread {v : Value} (h : v.serializable = true) :
    v.reread.serializable = true := by
  induction v using nested with
  | list items ih | tuple items ih =>
      simp only [reread_list, reread_tuple, serializable_list, serializable_tuple,
        List.all_eq_true, List.forall_mem_map] at h ⊢
      exact fun v hv => ih v hv (h v hv)
  | table entries ih =>
      simp only [reread_table, serializable_table, List.all_eq_true, Bool.and_eq_true,
        isSome_text?_iff] at h ⊢
      refine Entries.forall_mem_ofPairs (P := fun k => ∃ t, k = text t)
        (Q := fun v => v.serializable = true) (List.forall_mem_map.2 fun e he => ?_)
      obtain ⟨⟨t, ht⟩, hv⟩ := h e he
      exact ⟨⟨t.joined, by rw [ht, joinedKey]⟩, (ih e he).2 hv⟩
  | _ => exact h

/-- **Where there is no pair, what comes back is the value with its tuples turned into lists.** -/
theorem reread_of_unsplit {v : Value} (hsound : v.Sound) (h : v.Unsplit) :
    v.reread = v.listed := by
  induction v using nested with
  | text t => exact congrArg text (Text.joined_of_unsplit h)
  | list items ih | tuple items ih =>
      simp only [Sound, soundItems_iff] at hsound
      simp only [Unsplit, unsplitItems_iff] at h
      simp only [reread_list, reread_tuple, listed_list, listed_tuple, list.injEq]
      exact List.map_congr_left fun v hv => ih v hv (hsound v hv) (h v hv)
  | table entries ih =>
      rw [Sound, soundEntries_iff] at hsound
      rw [unsplit_table_iff] at h
      have hsame : ∀ e ∈ entries, (e.1.joinedKey, e.2.reread) = (e.1, e.2.listed) := fun e he =>
        Prod.ext (joinedKey_of_unsplitKey (h e he).1) ((ih e he).2 (hsound.2 e he).2 (h e he).2)
      rw [reread_table, listed_table, Entries.reread, List.map_congr_left hsame,
        Entries.ofPairs_of_distinct ((Entries.distinct_map_snd listed).2 hsound.1)]
  | _ => rfl

theorem unsplit_listed {v : Value} : v.listed.Unsplit ↔ v.Unsplit := by
  induction v using nested with
  | list items ih | tuple items ih =>
      simp only [listed_list, listed_tuple, Unsplit, unsplitItems_iff, List.forall_mem_map]
      exact forall₂_congr ih
  | table entries ih =>
      simp only [listed_table, unsplit_table_iff, List.forall_mem_map]
      exact forall₂_congr fun e he => and_congr_right' (ih e he).2
  | _ => rfl

/-- **No more is changed than that tuples are lists exactly where there is no pair.** -/
theorem reread_eq_listed_iff {v : Value} (hsound : v.Sound) : v.reread = v.listed ↔ v.Unsplit :=
  ⟨fun h => unsplit_listed.1 (h ▸ unsplit_reread v), reread_of_unsplit hsound⟩

/-- **A value comes back as it is exactly when it holds neither a tuple nor a pair.** -/
theorem reread_eq_self_iff {v : Value} (hsound : v.Sound) :
    v.reread = v ↔ v.TupleFree ∧ v.Unsplit := by
  constructor
  · intro h
    exact ⟨h ▸ tupleFree_reread v, h ▸ unsplit_reread v⟩
  · rintro ⟨htuple, hunsplit⟩
    rw [reread_of_unsplit hsound hunsplit, listed_eq_self_iff.2 htuple]

/-- What has come back comes back as it is. -/
theorem reread_reread (v : Value) : v.reread.reread = v.reread := by
  induction v using nested with
  | text t => exact congrArg text (Text.joined_joined t)
  | list items ih | tuple items ih =>
      simp only [reread_list, reread_tuple, List.map_map, list.injEq]
      exact List.map_congr_left ih
  | table entries ih =>
      -- the entries that have come back are under joined keys, and no key is there twice
      have hsame : ∀ e ∈ entries.reread, (e.1.joinedKey, e.2.reread) = id e := by
        intro e he
        have hback := Entries.forall_mem_ofPairs (P := UnsplitKey) (Q := fun v => v.reread = v)
          (List.forall_mem_map.2 fun e he => ⟨unsplitKey_joinedKey e.1, (ih e he).2⟩) e he
        exact Prod.ext (joinedKey_of_unsplitKey hback.1) hback.2
      have hdistinct : entries.reread.Distinct := Entries.distinct_ofPairs _
      rw [reread_table, reread_table, Entries.reread, List.map_congr_left hsame, List.map_id,
        Entries.ofPairs_of_distinct hdistinct]
  | _ => rfl

/-! ### Keys that stay apart -/

mutual

/-- At every depth of lists, tuples and tables, no two keys of a table are joined to one. -/
def KeysApart : Value → Prop
  | list items => KeysApartItems items
  | tuple items => KeysApartItems items
  | table entries =>
    Entries.Distinct (entries.map fun e => (e.1.joinedKey, e.2)) ∧ KeysApartEntries entries
  | _ => True

/-- The keys in the values stay apart. -/
def KeysApartItems : List Value → Prop
  | [] => True
  | v :: vs => KeysApart v ∧ KeysApartItems vs

/-- The keys in the values of the entries stay apart. -/
def KeysApartEntries : List (Value × Value) → Prop
  | [] => True
  | (_, v) :: es => KeysApart v ∧ KeysApartEntries es

end

theorem keysApartItems_iff {vs : List Value} : KeysApartItems vs ↔ ∀ v ∈ vs, KeysApart v := by
  induction vs with
  | nil => simp [KeysApartItems]
  | cons v vs ih => simp [KeysApartItems, ih]

theorem keysApartEntries_iff {es : Entries} :
    KeysApartEntries es ↔ ∀ e ∈ es, KeysApart e.2 := by
  induction es with
  | nil => simp [KeysApartEntries]
  | cons e es ih => simp only [KeysApartEntries, ih, List.forall_mem_cons]

end Value

namespace Entries

variable {es : Entries}

/-- Where keys stay apart, every entry comes back in its place. -/
theorem reread_of_keysApart (h : Distinct (es.map fun e => (e.1.joinedKey, e.2))) :
    es.reread = es.map fun e => (e.1.joinedKey, e.2.reread) := by
  refine ofPairs_of_distinct ?_
  rw [Distinct, List.pairwise_map] at h ⊢
  exact h

theorem textKeys_reread (h : es.TextKeys) : es.reread.TextKeys := by
  refine textKeys_putAll (List.forall_mem_nil _) (List.forall_mem_map.2 fun e he => ?_)
  obtain ⟨t, ht⟩ := h e he
  exact ⟨t.joined, by rw [ht, Value.joinedKey]⟩

theorem reread_reread (es : Entries) : es.reread.reread = es.reread := by
  have hv := Value.reread_reread (.table es)
  rw [Value.reread_table, Value.reread_table] at hv
  exact Value.table.inj hv

theorem reread_eq_listed_iff (h : (Value.table es).Sound) :
    es.reread = es.listed ↔ (Value.table es).Unsplit := by
  rw [← Value.reread_eq_listed_iff h, Value.reread_table, Value.listed_table, Value.table.injEq]
  rfl

theorem reread_eq_self_iff (h : (Value.table es).Sound) :
    es.reread = es ↔ (∀ e ∈ es, e.2.TupleFree) ∧ (Value.table es).Unsplit := by
  have hv := Value.reread_eq_self_iff h
  rwa [Value.reread_table, Value.table.injEq, Value.TupleFree, Value.tupleFreeEntries_iff] at hv

end Entries

end Tiered
