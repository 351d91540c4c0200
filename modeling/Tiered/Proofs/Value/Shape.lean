import Mathlib
import Tiered.Value.Serializable

/-!
# Shape — values by the depth of their nesting

What holds of a value once it holds of its parts holds of every value (`Value.nested`).  Three
things are said of a value at every depth: that its tables have no key twice (`Value.Sound`), that
its whole numbers are not too long for a text (`Value.Spellable`), and what it is with its tuples
turned into lists (`Value.listed`).  A value is plain when it is of the kinds that a JSON text can
spell (`Value.Plain`).

* `listed_eq_self_iff`: turning tuples into lists changes nothing exactly where there is no tuple
  (`Value.TupleFree`).
* `serializable_iff_finiteNumbers`: of plain values, a file can keep those whose numbers are finite.
-/

namespace Tiered

/-- No key is there twice. -/
def Entries.Distinct (es : Entries) : Prop := es.Pairwise fun e f => e.1.equals f.1 = false

namespace Value

/-- **Induction on the nesting of values.** -/
theorem nested {P : Value → Prop} (none : P .none) (bool : ∀ b, P (.bool b))
    (int : ∀ n, P (.int n)) (float : ∀ x, P (.float x)) (text : ∀ t, P (.text t))
    (octets : ∀ bytes, P (.octets bytes))
    (list : ∀ items, (∀ v ∈ items, P v) → P (.list items))
    (tuple : ∀ items, (∀ v ∈ items, P v) → P (.tuple items))
    (set : ∀ members, (∀ v ∈ members, P v) → P (.set members))
    (table : ∀ entries : Entries, (∀ e ∈ entries, P e.1 ∧ P e.2) → P (.table entries))
    (foreign : ∀ thing, P (.foreign thing)) (notFound : P .notFound) : ∀ v, P v :=
  @Value.rec P (fun vs => ∀ v ∈ vs, P v) (fun es => ∀ e ∈ es, P e.1 ∧ P e.2)
    (fun e => P e.1 ∧ P e.2) none bool int float text octets list tuple set table foreign notFound
    (fun _ h => absurd h List.not_mem_nil)
    (fun _ _ hv hvs w hw => (List.mem_cons.1 hw).elim (· ▸ hv) (hvs w))
    (fun _ h => absurd h List.not_mem_nil)
    (fun _ _ he hes f hf => (List.mem_cons.1 hf).elim (· ▸ he) (hes f))
    (fun _ _ hk hv => ⟨hk, hv⟩)

/-! ### Tables without double keys -/

mutual

/-- At every depth of the value, no table has a key twice. -/
def Sound : Value → Prop
  | list items => SoundItems items
  | tuple items => SoundItems items
  | set members => SoundItems members
  | table entries => Entries.Distinct entries ∧ SoundEntries entries
  | _ => True

/-- The values are sound. -/
def SoundItems : List Value → Prop
  | [] => True
  | v :: vs => Sound v ∧ SoundItems vs

/-- The keys and values of the entries are sound. -/
def SoundEntries : List (Value × Value) → Prop
  | [] => True
  | (k, v) :: es => (Sound k ∧ Sound v) ∧ SoundEntries es

end

theorem soundItems_iff {vs : List Value} : SoundItems vs ↔ ∀ v ∈ vs, Sound v := by
  induction vs with
  | nil => simp [SoundItems]
  | cons v vs ih => simp [SoundItems, ih]

theorem soundEntries_iff {es : Entries} :
    SoundEntries es ↔ ∀ e ∈ es, Sound e.1 ∧ Sound e.2 := by
  induction es with
  | nil => simp [SoundEntries]
  | cons e es ih => simp only [SoundEntries, ih, List.forall_mem_cons]

/-! ### Whole numbers that have a text -/

mutual

/-- At every depth of the value, apart from keys, whole numbers have no more digits than are
converted. -/
def Spellable : Value → Prop
  | int n => (Number.Decimal.digits n.natAbs).length ≤ Number.Decimal.maxDigits
  | list items => SpellableItems items
  | tuple items => SpellableItems items
  | set members => SpellableItems members
  | table entries => SpellableEntries entries
  | _ => True

/-- The values are spellable. -/
def SpellableItems : List Value → Prop
  | [] => True
  | v :: vs => Spellable v ∧ SpellableItems vs

/-- The values of the entries are spellable. -/
def SpellableEntries : List (Value × Value) → Prop
  | [] => True
  | (_, v) :: es => Spellable v ∧ SpellableEntries es

end

theorem spellableItems_iff {vs : List Value} : SpellableItems vs ↔ ∀ v ∈ vs, Spellable v := by
  induction vs with
  | nil => simp [SpellableItems]
  | cons v vs ih => simp [SpellableItems, ih]

theorem spellableEntries_iff {es : Entries} :
    SpellableEntries es ↔ ∀ e ∈ es, Spellable e.2 := by
  induction es with
  | nil => simp [SpellableEntries]
  | cons e es ih => simp only [SpellableEntries, ih, List.forall_mem_cons]

/-! ### Tuples as lists -/

mutual

/-- The value with its tuples, at every depth, turned into lists; keys stay as they are. -/
def listed : Value → Value
  | list items => list (listedItems items)
  | tuple items => list (listedItems items)
  | table entries => table (listedEntries entries)
  | v => v

/-- The values, each with its tuples turned into lists. -/
def listedItems : List Value → List Value
  | [] => []
  | v :: vs => listed v :: listedItems vs

/-- The entries, each value with its tuples turned into lists. -/
def listedEntries : List (Value × Value) → List (Value × Value)
  | [] => []
  | (k, v) :: es => (k, listed v) :: listedEntries es

end

theorem listedItems_eq (vs : List Value) : listedItems vs = vs.map listed := by
  induction vs with
  | nil => rfl
  | cons v vs ih => rw [listedItems, ih, List.map_cons]

theorem listedEntries_eq (es : Entries) :
    listedEntries es = es.map fun e => (e.1, listed e.2) := by
  induction es with
  | nil => rfl
  | cons e es ih => rw [listedEntries, ih, List.map_cons]

@[simp] theorem listed_list (vs : List Value) : (list vs).listed = list (vs.map listed) := by
  rw [listed, listedItems_eq]

@[simp] theorem listed_tuple (vs : List Value) : (tuple vs).listed = list (vs.map listed) := by
  rw [listed, listedItems_eq]

@[simp] theorem listed_table (es : Entries) :
    (table es).listed = table (es.map fun e => (e.1, listed e.2)) := by
  rw [listed, listedEntries_eq]

end Value

/-- The entries, each value with its tuples turned into lists. -/
def Entries.listed (es : Entries) : Entries := es.map fun e => (e.1, e.2.listed)

namespace Value

mutual

/-- At every depth of lists and tables, apart from keys, no value is a tuple. -/
def TupleFree : Value → Prop
  | list items => TupleFreeItems items
  | tuple _ => False
  | table entries => TupleFreeEntries entries
  | _ => True

/-- The values are free of tuples. -/
def TupleFreeItems : List Value → Prop
  | [] => True
  | v :: vs => TupleFree v ∧ TupleFreeItems vs

/-- The values of the entries are free of tuples. -/
def TupleFreeEntries : List (Value × Value) → Prop
  | [] => True
  | (_, v) :: es => TupleFree v ∧ TupleFreeEntries es

end

theorem tupleFreeItems_iff {vs : List Value} : TupleFreeItems vs ↔ ∀ v ∈ vs, TupleFree v := by
  induction vs with
  | nil => simp [TupleFreeItems]
  | cons v vs ih => simp [TupleFreeItems, ih]

theorem tupleFreeEntries_iff {es : Entries} :
    TupleFreeEntries es ↔ ∀ e ∈ es, TupleFree e.2 := by
  induction es with
  | nil => simp [TupleFreeEntries]
  | cons e es ih => simp only [TupleFreeEntries, ih, List.forall_mem_cons]

/-- **Turning tuples into lists changes a value exactly when it holds a tuple.** -/
theorem listed_eq_self_iff {v : Value} : v.listed = v ↔ v.TupleFree := by
  induction v using nested with
  | list items ih =>
      have hitems : items.map listed = items ↔ ∀ v ∈ items, listed v = v := by
        simpa only [List.map_id, id] using List.map_inj_left (l := items) (f := listed) (g := id)
      rw [listed_list, list.injEq, hitems, TupleFree, tupleFreeItems_iff]
      exact forall₂_congr ih
  | tuple items ih => simp [TupleFree]
  | table es ih =>
      have hes : (es.map fun e => (e.1, listed e.2)) = es ↔ ∀ e ∈ es, listed e.2 = e.2 := by
        have h := List.map_inj_left (l := es) (f := fun e => (e.1, listed e.2)) (g := id)
        simpa only [List.map_id, id, Prod.ext_iff, true_and] using h
      rw [listed_table, table.injEq, hes, TupleFree, tupleFreeEntries_iff]
      exact forall₂_congr fun e he => (ih e he).2
  | _ => simp [TupleFree, listed]

theorem serializable_list (vs : List Value) :
    (list vs).serializable = vs.all serializable := by
  rw [serializable, serializableItems_eq_all]

theorem serializable_tuple (vs : List Value) :
    (tuple vs).serializable = vs.all serializable := by
  rw [serializable, serializableItems_eq_all]

theorem serializable_table (es : Entries) :
    (table es).serializable = es.all fun e => (text? e.1).isSome && serializable e.2 := by
  rw [serializable, serializableEntries_eq_all]

theorem isSome_text?_iff {k : Value} : (text? k).isSome = true ↔ ∃ t, k = .text t := by
  cases k <;> simp [text?]

end Value

namespace Entries

theorem distinct_map_snd {es : Entries} (f : Value → Value) :
    Distinct (es.map fun e => (e.1, f e.2)) ↔ Distinct es := by
  rw [Distinct, List.pairwise_map]
  rfl

end Entries

namespace Value

/-! ### Plain values -/

mutual

/-- At every depth the value is nothing, a truth value, a number, a text, a list, or a table under
texts. -/
def Plain : Value → Prop
  | none | bool _ | int _ | float _ | text _ => True
  | list items => PlainItems items
  | table entries => PlainEntries entries
  | _ => False

/-- The values are plain. -/
def PlainItems : List Value → Prop
  | [] => True
  | v :: vs => Plain v ∧ PlainItems vs

/-- The keys of the entries are texts, and the values are plain. -/
def PlainEntries : List (Value × Value) → Prop
  | [] => True
  | (k, v) :: es => ((∃ t, k = text t) ∧ Plain v) ∧ PlainEntries es

end

theorem plainItems_iff {vs : List Value} : PlainItems vs ↔ ∀ v ∈ vs, Plain v := by
  induction vs with
  | nil => simp [PlainItems]
  | cons v vs ih => simp [PlainItems, ih]

theorem plainEntries_iff {es : Entries} :
    PlainEntries es ↔ ∀ e ∈ es, (∃ t, e.1 = text t) ∧ Plain e.2 := by
  induction es with
  | nil => simp [PlainEntries]
  | cons e es ih => simp only [PlainEntries, ih, List.forall_mem_cons]

mutual

/-- At every depth of lists, tuples and tables, apart from keys, no number is infinite or no
number. -/
def FiniteNumbers : Value → Prop
  | float x => x.isFinite = true
  | list items => FiniteItems items
  | tuple items => FiniteItems items
  | table entries => FiniteEntries entries
  | _ => True

/-- The numbers in the values are finite. -/
def FiniteItems : List Value → Prop
  | [] => True
  | v :: vs => FiniteNumbers v ∧ FiniteItems vs

/-- The numbers in the values of the entries are finite. -/
def FiniteEntries : List (Value × Value) → Prop
  | [] => True
  | (_, v) :: es => FiniteNumbers v ∧ FiniteEntries es

end

theorem finiteItems_iff {vs : List Value} : FiniteItems vs ↔ ∀ v ∈ vs, FiniteNumbers v := by
  induction vs with
  | nil => simp [FiniteItems]
  | cons v vs ih => simp [FiniteItems, ih]

theorem finiteEntries_iff {es : Entries} :
    FiniteEntries es ↔ ∀ e ∈ es, FiniteNumbers e.2 := by
  induction es with
  | nil => simp [FiniteEntries]
  | cons e es ih => simp only [FiniteEntries, ih, List.forall_mem_cons]

/-- **A file can keep a plain value exactly when its numbers are finite.** -/
theorem serializable_iff_finiteNumbers {v : Value} (h : v.Plain) :
    v.serializable = true ↔ v.FiniteNumbers := by
  induction v using nested with
  | list items ih =>
      rw [Plain, plainItems_iff] at h
      rw [serializable_list, List.all_eq_true, FiniteNumbers, finiteItems_iff]
      exact forall₂_congr fun v hv => ih v hv (h v hv)
  | table es ih =>
      rw [Plain, plainEntries_iff] at h
      rw [serializable_table, List.all_eq_true, FiniteNumbers, finiteEntries_iff]
      refine forall₂_congr fun e he => ?_
      obtain ⟨⟨t, ht⟩, hplain⟩ := h e he
      rw [ht, ← (ih e he).2 hplain]
      simp [text?]
  | octets | tuple | set | foreign | notFound => exact absurd h (by simp [Plain])
  | _ => simp [serializable, FiniteNumbers]

end Value

end Tiered
