import Mathlib
import Tiered.Proofs.Resolver.Revision
import Tiered.Session.Memory

/-!
# Memory — tables that share no value

Tables that stand for the parts of a state own their values if each value is bound once in all of
them (`Owned`).  As long as they do, a change that is made through one of the tables (`ChangesAt`)
is not seen through another (`Owned.changesAt`).  What makes values and tables makes new ones, so
that the owners stay owners (`Owned.extending`), and a table that is made is one more of them
(`Owned.withMade`).
-/

open Tiered.Action

namespace Tiered

/-! ### Bindings -/

namespace Bindings

variable {bs cs : Bindings} {k : Value} {n : Nat}

theorem numbers_cons (b : Value × Nat) (bs : Bindings) :
    numbers (b :: bs) = b.2 :: numbers bs := rfl

theorem putAll_cons (bs : Bindings) (c : Value × Nat) (cs : Bindings) :
    putAll bs (c :: cs) = putAll (put bs c.1 c.2) cs := rfl

theorem mem_numbers_put {i : Nat} (h : i ∈ numbers (put bs k n)) : i = n ∨ i ∈ numbers bs := by
  induction bs with
  | nil => simpa [put, numbers] using h
  | cons b bs ih =>
      rw [put] at h
      split_ifs at h
      · rw [numbers_cons] at h ⊢
        rcases List.mem_cons.1 h with h | h
        · exact .inl h
        · exact .inr (List.mem_cons_of_mem _ h)
      · rw [numbers_cons] at h ⊢
        rcases List.mem_cons.1 h with h | h
        · exact .inr (h ▸ List.mem_cons_self)
        · exact (ih h).imp_right (List.mem_cons_of_mem _)

theorem nodup_put (hn : n ∉ numbers bs) (h : (numbers bs).Nodup) :
    (numbers (put bs k n)).Nodup := by
  induction bs with
  | nil => simp [put, numbers]
  | cons b bs ih =>
      rw [numbers_cons, List.mem_cons, not_or] at hn
      rw [numbers_cons, List.nodup_cons] at h
      rw [put]
      split_ifs
      · exact List.nodup_cons.2 ⟨hn.2, h.2⟩
      · refine List.nodup_cons.2 ⟨fun hmem => ?_, ih hn.2 h.2⟩
        rcases mem_numbers_put hmem with he | he
        · exact hn.1 he.symm
        · exact h.1 he

theorem mem_numbers_putAll {i : Nat} (h : i ∈ numbers (putAll bs cs)) :
    i ∈ numbers bs ∨ i ∈ numbers cs := by
  induction cs generalizing bs with
  | nil => exact .inl h
  | cons c cs ih =>
      rw [putAll_cons] at h
      rw [numbers_cons]
      rcases ih h with h | h
      · rcases mem_numbers_put h with h | h
        · exact .inr (h ▸ List.mem_cons_self)
        · exact .inl h
      · exact .inr (List.mem_cons_of_mem _ h)

/-- Writing other numbers, each of them once, leaves each number bound once. -/
theorem nodup_putAll (h : (numbers bs ++ numbers cs).Nodup) : (numbers (putAll bs cs)).Nodup := by
  induction cs generalizing bs with
  | nil => exact (List.nodup_append.1 h).1
  | cons c cs ih =>
      rw [numbers_cons, List.nodup_append] at h
      obtain ⟨hbs, hcs, hapart⟩ := h
      rw [List.nodup_cons] at hcs
      rw [putAll_cons]
      refine ih (List.nodup_append.2 ⟨nodup_put ?_ hbs, hcs.2, ?_⟩)
      · exact fun hmem => hapart _ hmem _ List.mem_cons_self rfl
      · intro i hi j hj
        rcases mem_numbers_put hi with rfl | hi
        · exact fun he => hcs.1 (he ▸ hj)
        · exact hapart i hi j (List.mem_cons_of_mem _ hj)

end Bindings

namespace Memory

open Bindings (numbers put putAll)

variable {m m' : Memory} {bs : Bindings} {t : Nat}

/-! ### What bindings stand for -/

theorem entriesOf_put (m : Memory) (bs : Bindings) (k : Value) (n : Nat) :
    m.entriesOf (bs.put k n) = (m.entriesOf bs).put k (m.value n) := by
  induction bs with
  | nil => rfl
  | cons b bs ih =>
      simp only [put, entriesOf, List.map_cons, Entries.put] at ih ⊢
      split_ifs
      · rfl
      · rw [List.map_cons, ih]

/-- Writing bindings is writing the entries that they stand for. -/
theorem entriesOf_putAll (m : Memory) (bs cs : Bindings) :
    m.entriesOf (bs.putAll cs) = (m.entriesOf bs).putAll (m.entriesOf cs) := by
  induction cs generalizing bs with
  | nil => rfl
  | cons c cs ih =>
      rw [Bindings.putAll_cons, ih, entriesOf_put]
      rfl

theorem get?_entriesOf (m : Memory) (bs : Bindings) (k : Value) :
    (m.entriesOf bs).get? k = (bs.get? k).map m.value := by
  induction bs with
  | nil => rfl
  | cons b bs ih =>
      rw [entriesOf, List.map_cons, Entries.get?_cons, Bindings.get?, List.find?_cons]
      cases b.1.equals k
      · exact ih
      · rfl

theorem entriesOf_congr (h : ∀ n ∈ numbers bs, m'.value n = m.value n) :
    m'.entriesOf bs = m.entriesOf bs :=
  List.map_congr_left fun b hb => by rw [h b.2 (List.mem_map_of_mem hb)]

/-- Changing in place a value that is bound once is writing the changed value under its key. -/
theorem entriesOf_change {k : Value} {n : Nat} (v : Value) (hk : bs.get? k = some n)
    (honce : (numbers bs).Nodup) (hn : n < m.values.length) :
    Memory.entriesOf { m with values := m.values.set n v } bs = (m.entriesOf bs).put k v := by
  have hvalue : ∀ i, Memory.value { m with values := m.values.set n v } i =
      if n = i then v else m.value i := by
    intro i
    simp only [value, List.getD_eq_getElem?_getD, List.getElem?_set]
    split_ifs <;> simp_all
  induction bs with
  | nil => simp [Bindings.get?] at hk
  | cons b bs ih =>
      rw [Bindings.numbers_cons, List.nodup_cons] at honce
      rw [Bindings.get?, List.find?_cons] at hk
      simp only [entriesOf, List.map_cons, Entries.put, hvalue] at ih ⊢
      cases hb : b.1.equals k
      · rw [hb] at hk
        have hne : n ≠ b.2 := by
          rintro rfl
          obtain ⟨c, hc, hcn⟩ := Option.map_eq_some_iff.1 hk
          exact honce.1 (hcn ▸ List.mem_map_of_mem (List.mem_of_find?_eq_some hc))
        rw [if_neg hne, if_neg Bool.false_ne_true, ih hk honce.2]
      · rw [hb] at hk
        obtain rfl : b.2 = n := by simpa using hk
        rw [if_pos rfl, if_pos rfl]
        refine congrArg (List.cons _) (List.map_congr_left fun c hc => ?_)
        have hne : b.2 ≠ c.2 := fun he => honce.1 (he ▸ List.mem_map_of_mem hc)
        rw [if_neg hne]

/-! ### Making -/

/-- The memory has all that another one has, as it is there. -/
structure Extends (m m' : Memory) : Prop where
  values : m.values <+: m'.values
  tables : m.tables <+: m'.tables

namespace Extends

theorem refl (m : Memory) : Extends m m := ⟨List.prefix_rfl, List.prefix_rfl⟩

theorem trans {m'' : Memory} (h : Extends m m') (h' : Extends m' m'') : Extends m m'' :=
  ⟨h.values.trans h'.values, h.tables.trans h'.tables⟩

theorem value (h : Extends m m') {n : Nat} (hn : n < m.values.length) : m'.value n = m.value n := by
  obtain ⟨more, hmore⟩ := h.values
  rw [Memory.value, Memory.value, ← hmore, List.getD_append _ _ _ _ hn]

theorem table (h : Extends m m') (ht : t < m.tables.length) : m'.table t = m.table t := by
  obtain ⟨more, hmore⟩ := h.tables
  rw [Memory.table, Memory.table, ← hmore, List.getD_append _ _ _ _ ht]

theorem entries (h : Extends m m') (ht : t < m.tables.length)
    (hinside : ∀ n ∈ numbers (m.table t), n < m.values.length) : m'.entries t = m.entries t := by
  rw [Memory.entries, Memory.entries, h.table ht]
  exact entriesOf_congr fun n hn => h.value (hinside n hn)

end Extends

/-- The memory with one more table. -/
def withMore (m : Memory) (bs : Bindings) : Memory := { m with tables := m.tables ++ [bs] }

/-- The memory behind the making of a table with new values. -/
def made (m : Memory) (es : Entries) : Memory := (m.withValues es).withMore (m.nextBindings es)

theorem extends_withValues (m : Memory) (es : Entries) : Extends m (m.withValues es) :=
  ⟨List.prefix_append _ _, List.prefix_rfl⟩

theorem extends_withMore (m : Memory) (bs : Bindings) : Extends m (m.withMore bs) :=
  ⟨List.prefix_rfl, List.prefix_append _ _⟩

theorem extends_made (m : Memory) (es : Entries) : Extends m (m.made es) :=
  (m.extends_withValues es).trans (extends_withMore _ _)

theorem make_apply (m : Memory) (es : Entries) :
    make es m = ⟨.ok m.tables.length, m.made es, []⟩ := rfl

theorem copyTable_apply (m : Memory) (t : Nat) :
    copyTable t m = ⟨.ok m.tables.length, m.withMore (m.table t), []⟩ := rfl

theorem keepSerializable_apply (m : Memory) (t : Nat) :
    keepSerializable t m = ⟨.ok m.tables.length,
      m.withMore ((m.table t).filter fun b => (m.value b.2).serializable), []⟩ := rfl

theorem deepCopy_apply (copy : Entries → Except Failure Entries) (t : Nat) (m : Memory) :
    deepCopy copy t m = match copy (m.entries t) with
      | .error failure => ⟨.error failure, m, []⟩
      | .ok es => ⟨.ok m.tables.length, m.made es, []⟩ := by
  simp only [deepCopy, bind_apply, read_apply, lift_apply, make_apply, List.nil_append]
  cases copy (m.entries t) <;> rfl

theorem table_withMore (m : Memory) (bs : Bindings) :
    (m.withMore bs).table m.tables.length = bs := by
  simp [table, withMore]

/-- A table that is made of bindings stands for what they stand for. -/
theorem entries_withMore (m : Memory) (bs : Bindings) :
    (m.withMore bs).entries m.tables.length = m.entriesOf bs := by
  rw [entries, table_withMore]
  rfl

/-- The values that a file can keep are those of the entries that it can keep. -/
theorem entriesOf_filter (m : Memory) (bs : Bindings) :
    m.entriesOf (bs.filter fun b => (m.value b.2).serializable) = (m.entriesOf bs).keep := by
  rw [Entries.keep, entriesOf, entriesOf, List.filter_map]
  rfl

theorem table_made (m : Memory) (es : Entries) :
    (m.made es).table m.tables.length = m.nextBindings es :=
  table_withMore (m.withValues es) _

theorem numbers_nextBindings (m : Memory) (es : Entries) :
    numbers (m.nextBindings es) = List.range' m.values.length es.length := by
  refine List.ext_getElem (by simp [numbers, nextBindings]) fun i h₁ h₂ => ?_
  simp [numbers, nextBindings]

theorem mem_nextBindings {es : Entries} {n : Nat} :
    n ∈ numbers (m.nextBindings es) ↔
      m.values.length ≤ n ∧ n < (m.withValues es).values.length := by
  rw [numbers_nextBindings, List.mem_range'_1]
  simp [withValues]

theorem nodup_nextBindings (m : Memory) (es : Entries) : (numbers (m.nextBindings es)).Nodup := by
  rw [numbers_nextBindings]
  exact List.nodup_range'

/-- The next bindings stand for the entries that they are made of. -/
theorem entriesOf_nextBindings (m : Memory) (es : Entries) :
    (m.withValues es).entriesOf (m.nextBindings es) = es := by
  refine List.ext_getElem (by simp [entriesOf, nextBindings]) fun i h₁ h₂ => ?_
  simp [entriesOf, nextBindings, value, withValues, h₂]

theorem entries_made (m : Memory) (es : Entries) : (m.made es).entries m.tables.length = es := by
  rw [entries, table_made]
  exact entriesOf_nextBindings m es

/-! ### Owners -/

/-- The tables of a family own their values: each value is bound once in all of them. -/
structure Owned {ι : Type} (m : Memory) (root : ι → Option Nat) : Prop where
  made : ∀ {i t}, root i = some t → t < m.tables.length
  inside : ∀ {i t}, root i = some t → ∀ n ∈ numbers (m.table t), n < m.values.length
  once : ∀ {i t}, root i = some t → (numbers (m.table t)).Nodup
  apart : ∀ {i j t u}, root i = some t → root j = some u → i ≠ j →
    t ≠ u ∧ (numbers (m.table t)).Disjoint (numbers (m.table u))

/-- At most one table is changed, and the values that are bound there; what is bound there now was
bound there or is new. -/
structure ChangesAt (t : Nat) (m m' : Memory) : Prop where
  tables : m.tables.length ≤ m'.tables.length
  values : m.values.length ≤ m'.values.length
  table : ∀ u < m.tables.length, u ≠ t → m'.table u = m.table u
  value : ∀ n < m.values.length, n ∉ numbers (m.table t) → m'.value n = m.value n
  inside : ∀ n ∈ numbers (m'.table t), n < m'.values.length
  fresh : ∀ n ∈ numbers (m'.table t), n ∈ numbers (m.table t) ∨ m.values.length ≤ n
  once : (numbers (m'.table t)).Nodup

theorem ChangesAt.trans {m'' : Memory} (h : ChangesAt t m m') (h' : ChangesAt t m' m'') :
    ChangesAt t m m'' where
  tables := h.tables.trans h'.tables
  values := h.values.trans h'.values
  table u hu hne := (h'.table u (hu.trans_le h.tables) hne).trans (h.table u hu hne)
  value n hn hfree := by
    have hfree' : n ∉ numbers (m'.table t) := fun hmem =>
      (h.fresh n hmem).elim hfree fun hle => absurd hn (Nat.not_lt.2 hle)
    exact (h'.value n (hn.trans_le h.values) hfree').trans (h.value n hn hfree)
  inside := h'.inside
  fresh n hn := (h'.fresh n hn).elim (h.fresh n) fun hle => .inr (h.values.trans hle)
  once := h'.once

namespace Owned

variable {ι : Type} {root : ι → Option Nat} {i j : ι}

/-- The owners stay owners, and keep their entries, while others are made. -/
theorem extending (h : m.Owned root) (hm : Extends m m') : m'.Owned root where
  made hi := (h.made hi).trans_le hm.tables.length_le
  inside hi := by
    rw [hm.table (h.made hi)]
    exact fun n hn => (h.inside hi n hn).trans_le hm.values.length_le
  once hi := by
    rw [hm.table (h.made hi)]
    exact h.once hi
  apart hi hj hne := by
    rw [hm.table (h.made hi), hm.table (h.made hj)]
    exact h.apart hi hj hne

theorem entries_extends (h : m.Owned root) (hm : Extends m m') (hi : root i = some t) :
    m'.entries t = m.entries t :=
  hm.entries (h.made hi) (h.inside hi)

/-- **What is changed through one of the tables is not seen through another**, and the tables own
their values as before. -/
theorem changesAt (h : m.Owned root) (hi : root i = some t) (hc : ChangesAt t m m') :
    m'.Owned root ∧ ∀ {j u}, root j = some u → j ≠ i → m'.entries u = m.entries u := by
  have htable : ∀ {j u}, root j = some u → j ≠ i → m'.table u = m.table u := fun hj hne =>
    hc.table _ (h.made hj) (h.apart hj hi hne).1
  have hfree : ∀ {j u}, root j = some u → j ≠ i →
      (numbers (m.table u)).Disjoint (numbers (m'.table t)) := by
    intro j u hj hne n hn hn'
    rcases hc.fresh n hn' with hold | hnew
    · exact (h.apart hj hi hne).2 hn hold
    · exact absurd (h.inside hj n hn) (Nat.not_lt.2 hnew)
  refine ⟨⟨fun hj => (h.made hj).trans_le hc.tables, ?_, ?_, ?_⟩, ?_⟩
  · intro j u hj
    by_cases hji : j = i
    · obtain rfl : t = u := Option.some.inj (hi.symm.trans (hji ▸ hj))
      exact hc.inside
    · rw [htable hj hji]
      exact fun n hn => (h.inside hj n hn).trans_le hc.values
  · intro j u hj
    by_cases hji : j = i
    · obtain rfl : t = u := Option.some.inj (hi.symm.trans (hji ▸ hj))
      exact hc.once
    · rw [htable hj hji]
      exact h.once hj
  · intro j k u w hj hk hne
    refine ⟨(h.apart hj hk hne).1, ?_⟩
    by_cases hji : j = i
    · obtain rfl : t = u := Option.some.inj (hi.symm.trans (hji ▸ hj))
      have hki : k ≠ i := fun he => hne (hji.trans he.symm)
      rw [htable hk hki]
      exact (hfree hk hki).symm
    · rw [htable hj hji]
      by_cases hki : k = i
      · obtain rfl : t = w := Option.some.inj (hi.symm.trans (hki ▸ hk))
        exact hfree hj hji
      · rw [htable hk hki]
        exact (h.apart hj hk hne).2
  · intro j u hj hne
    rw [entries, entries, htable hj hne]
    refine entriesOf_congr fun n hn => hc.value n (h.inside hj n hn) ?_
    exact fun hn' => (h.apart hj hi hne).2 hn hn'

/-- A change of nothing. -/
theorem changesAt_refl (h : m.Owned root) (hi : root i = some t) : ChangesAt t m m :=
  ⟨le_rfl, le_rfl, fun _ _ _ => rfl, fun _ _ _ => rfl, h.inside hi, fun _ => .inl, h.once hi⟩

/-- A table that is made with new values is one more owner. -/
theorem withMade (h : m.Owned root) (es : Entries) :
    (m.made es).Owned (fun i : Option ι => i.elim (some m.tables.length) root) := by
  have hm := m.extends_made es
  have hold := h.extending hm
  have hlast : m.tables.length < (m.made es).tables.length := by simp [Memory.made, withMore,
    withValues]
  have hfree : ∀ {i t}, root i = some t → m.tables.length ≠ t ∧
      (numbers ((m.made es).table m.tables.length)).Disjoint (numbers ((m.made es).table t)) := by
    intro i t hi
    refine ⟨(h.made hi).ne', fun n hn hn' => ?_⟩
    rw [table_made, mem_nextBindings] at hn
    rw [hm.table (h.made hi)] at hn'
    exact absurd (h.inside hi n hn') (Nat.not_lt.2 hn.1)
  refine ⟨?_, ?_, ?_, ?_⟩
  · rintro (_ | i) t hi
    · exact Option.some.inj hi ▸ hlast
    · exact hold.made hi
  · rintro (_ | i) t hi
    · obtain rfl := Option.some.inj hi
      rw [table_made]
      exact fun n hn => (mem_nextBindings.1 hn).2
    · exact hold.inside hi
  · rintro (_ | i) t hi
    · obtain rfl := Option.some.inj hi
      rw [table_made]
      exact m.nodup_nextBindings es
    · exact hold.once hi
  · rintro (_ | i) (_ | j) t u hi hj hne
    · exact absurd rfl hne
    · obtain rfl := Option.some.inj hi
      exact hfree hj
    · obtain rfl := Option.some.inj hj
      exact ⟨(hfree hi).1.symm, (hfree hi).2.symm⟩
    · exact hold.apart hi hj fun he => hne (congrArg some he)

/-- Some of the owners are owners. -/
theorem comap {κ : Type} (h : m.Owned root) {root' : κ → Option Nat} (f : κ → ι)
    (hf : Function.Injective f) (hroot : ∀ k t, root' k = some t → root (f k) = some t) :
    m.Owned root' :=
  ⟨fun hk => h.made (hroot _ _ hk), fun hk => h.inside (hroot _ _ hk),
    fun hk => h.once (hroot _ _ hk),
    fun hk hl hne => h.apart (hroot _ _ hk) (hroot _ _ hl) (hf.ne hne)⟩

end Owned

/-! ### Writing into a table -/

theorem table_withTable (ht : t < m.tables.length) (bs : Bindings) :
    (m.withTable t bs).table t = bs := by
  simp [table, withTable, ht]

theorem table_withTable_of_ne {u : Nat} (h : u ≠ t) (bs : Bindings) :
    (m.withTable t bs).table u = m.table u := by
  simp [table, withTable, List.getElem?_set_ne h.symm]

/-- New values that are written into a table change that table only. -/
theorem changesAt_withTable (hm : Extends m m') (ht : t < m.tables.length) {old new : Bindings}
    (hold : ∀ n ∈ numbers old, n ∈ numbers (m.table t) ∧ n < m.values.length)
    (hnew : ∀ n ∈ numbers new, m.values.length ≤ n ∧ n < m'.values.length)
    (honce : (numbers old).Nodup) (honce' : (numbers new).Nodup) :
    ChangesAt t m (m'.withTable t (old.putAll new)) := by
  have htable : (m'.withTable t (old.putAll new)).table t = old.putAll new :=
    table_withTable (ht.trans_le hm.tables.length_le) _
  refine ⟨?_, hm.values.length_le, fun u hu hne => ?_, fun n hn _ => hm.value hn, ?_, ?_, ?_⟩
  · rw [withTable, List.length_set]
    exact hm.tables.length_le
  · rw [table_withTable_of_ne hne, hm.table hu]
  · rw [htable]
    intro n hn
    rcases Bindings.mem_numbers_putAll hn with h | h
    · exact (hold n h).2.trans_le hm.values.length_le
    · exact (hnew n h).2
  · rw [htable]
    intro n hn
    exact (Bindings.mem_numbers_putAll hn).imp (fun h => (hold n h).1) fun h => (hnew n h).1
  · rw [htable]
    refine Bindings.nodup_putAll (List.nodup_append.2 ⟨honce, honce', fun a ha b hb he => ?_⟩)
    exact absurd (hold a ha).2 (Nat.not_lt.2 (he ▸ (hnew b hb).1))

end Memory

end Tiered
