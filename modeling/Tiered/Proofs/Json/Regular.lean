import Mathlib
import Tiered.Json.Reader
import Tiered.Proofs.Json.Literal
import Tiered.Proofs.Number.Digits
import Tiered.Proofs.Result
import Tiered.Proofs.Value.Reread

/-!
# Regular — what the reader gives

Whatever the text, what is read from it has no key twice in a table, no whole number without a text,
no pair of surrogates, no tuple and nothing else that JSON cannot spell (`Gives`).  So a table that
is read is regular (`regular_of_read`), and written again it comes back as it is (`reread_of_read`).
The reader keeps this of each value, item and entry (`readerGives`), by induction on its fuel.
-/

namespace Tiered

namespace Json

open Number.Decimal (isDigit)

/-- What the reader gives: no table has a key twice, every whole number has a text, no text holds a
pair, nothing is a tuple or of another kind that JSON cannot spell, and the keys of tables are
texts. -/
structure Gives (v : Value) : Prop where
  sound : v.Sound
  spellable : v.Spellable
  unsplit : v.Unsplit
  tupleFree : v.TupleFree
  plain : v.Plain

/-- Entries under different texts without pairs, with values that the reader gives. -/
structure GivesEntries (es : Entries) : Prop where
  texts : es.TextKeys
  distinct : es.Distinct
  unsplit : ∀ e ∈ es, Value.UnsplitKey e.1
  values : ∀ e ∈ es, Gives e.2

/-- What the reader gives comes back as it is. -/
theorem Gives.reread {v : Value} (h : Gives v) : v.reread = v :=
  (Value.reread_eq_self_iff h.sound).2 ⟨h.tupleFree, h.unsplit⟩

theorem Gives.reread_entries {es : Entries} (h : Gives (.table es)) : es.reread = es := by
  have hreread := h.reread
  rw [Value.reread_table] at hreread
  exact Value.table.inj hreread

/-- **A table that the reader gives is made of texts and of what the reader gives.** -/
theorem Gives.entries {es : Entries} (h : Gives (.table es)) : GivesEntries es where
  texts e he := (Value.plainEntries_iff.1 h.plain e he).1
  distinct := h.sound.1
  unsplit e he := (Value.unsplit_table_iff.1 h.unsplit e he).1
  values e he :=
    ⟨(Value.soundEntries_iff.1 h.sound.2 e he).2, Value.spellableEntries_iff.1 h.spellable e he,
      (Value.unsplit_table_iff.1 h.unsplit e he).2,
      Value.tupleFreeEntries_iff.1 h.tupleFree e he, (Value.plainEntries_iff.1 h.plain e he).2⟩

theorem Gives.regular_entries {es : Entries} (h : Gives (.table es)) : es.Regular :=
  ⟨h.entries.texts, h.entries.distinct, fun e he =>
    ⟨(h.entries.values e he).sound, fun _ => (h.entries.values e he).spellable⟩⟩

theorem gives_list {vs : List Value} (h : ∀ v ∈ vs, Gives v) : Gives (.list vs) :=
  ⟨Value.soundItems_iff.2 fun v hv => (h v hv).sound,
    Value.spellableItems_iff.2 fun v hv => (h v hv).spellable,
    Value.unsplitItems_iff.2 fun v hv => (h v hv).unsplit,
    Value.tupleFreeItems_iff.2 fun v hv => (h v hv).tupleFree,
    Value.plainItems_iff.2 fun v hv => (h v hv).plain⟩

theorem GivesEntries.table {es : Entries} (h : GivesEntries es) : Gives (.table es) := by
  refine ⟨⟨h.distinct, Value.soundEntries_iff.2 fun e he => ⟨?_, (h.values e he).sound⟩⟩,
    Value.spellableEntries_iff.2 fun e he => (h.values e he).spellable,
    Value.unsplit_table_iff.2 fun e he => ⟨h.unsplit e he, (h.values e he).unsplit⟩,
    Value.tupleFreeEntries_iff.2 fun e he => (h.values e he).tupleFree,
    Value.plainEntries_iff.2 fun e he => ⟨h.texts e he, (h.values e he).plain⟩⟩
  obtain ⟨t, ht⟩ := h.texts e he
  rw [ht]
  trivial

theorem GivesEntries.put {es : Entries} (h : GivesEntries es) {key : Text} (hkey : key.Unsplit)
    {v : Value} (hv : Gives v) : GivesEntries (es.put (.text key) v) := by
  have hentries := Entries.forall_mem_put (P := Value.UnsplitKey) (Q := Gives)
    (k := .text key) (fun e he => ⟨h.unsplit e he, h.values e he⟩) hkey hv
  exact ⟨Entries.textKeys_put h.texts key v, Entries.distinct_put h.distinct _ v,
    fun e he => (hentries e he).1, fun e he => (hentries e he).2⟩

theorem GivesEntries.keep {es : Entries} (h : GivesEntries es) : GivesEntries es.keep :=
  ⟨h.texts.keep, h.distinct.filter _, fun e he => h.unsplit e (Entries.mem_keep.1 he).1,
    fun e he => h.values e (Entries.mem_keep.1 he).1⟩

theorem givesEntries_nil : GivesEntries [] :=
  ⟨by simp [Entries.TextKeys], List.Pairwise.nil, by simp, by simp⟩

/-- A literal that is read holds no pair. -/
theorem unsplit_literal {start cs rest : List Char} {t : Text}
    (h : literal start cs = .ok (t, rest)) : t.Unsplit := by
  rw [literal] at h
  split at h
  · next found hread =>
    obtain rfl := Except.ok.inj h
    obtain ⟨⟨us, _⟩, hcodes, hr⟩ := map_eq_ok_iff.1 hread
    obtain ⟨rfl, -⟩ := Prod.mk.inj hr
    exact Literal.isChain_of_codes hcodes
  · exact absurd h (by simp)

/-! ### Numbers -/

theorem wholeDigits?_eq_some {cs whole rest : List Char}
    (h : wholeDigits? cs = some (whole, rest)) :
    whole ≠ [] ∧ ∀ c ∈ whole, isDigit c = true := by
  rw [wholeDigits?.eq_def] at h
  split at h
  · obtain ⟨rfl, -⟩ : ['0'] = whole ∧ _ = rest := by simpa using h
    exact ⟨by simp, by simp [isDigit]⟩
  · rw [Number.Reading.digits] at h
    have hdigits : ∀ c ∈ cs.takeWhile isDigit, isDigit c = true :=
      fun c hc => List.mem_takeWhile_imp hc
    cases ht : cs.takeWhile isDigit with
    | nil => simp [ht] at h
    | cons c ds =>
        simp only [ht, Option.some.injEq, Prod.mk.injEq] at h
        obtain ⟨rfl, -⟩ := h
        exact ⟨by simp, ht ▸ hdigits⟩

theorem gives_int {whole : List Char} (hne : whole ≠ []) (h : ∀ c ∈ whole, isDigit c = true)
    (hlong : ¬ Number.Decimal.maxDigits < whole.length) (negative : Bool) :
    Gives (.int (if negative then -(Number.Decimal.value whole : Int)
      else Number.Decimal.value whole)) := by
  refine ⟨trivial, ?_, trivial, trivial, trivial⟩
  have hsize : (if negative then -(Number.Decimal.value whole : Int)
      else Number.Decimal.value whole).natAbs = Number.Decimal.value whole := by
    cases negative <;> simp
  rw [Value.Spellable, hsize]
  exact (Number.Decimal.length_digits_value hne h).trans (Nat.not_lt.1 hlong)

/-- A number that is read is a double or a whole number that has a text. -/
theorem gives_number {cs rest : List Char} {v : Value} (h : number cs = .ok (v, rest)) :
    Gives v := by
  delta number at h
  dsimp only at h
  split at h
  · exact absurd h (by simp)
  · next whole _ hw =>
    obtain ⟨hne, hdigits⟩ := wholeDigits?_eq_some hw
    split at h
    · split at h
      · exact absurd h (by simp)
      · next hlong =>
        obtain ⟨rfl, -⟩ := Prod.mk.inj (Except.ok.inj h)
        exact gives_int hne hdigits hlong _
    · obtain ⟨rfl, -⟩ := Prod.mk.inj (Except.ok.inj h)
      exact ⟨trivial, trivial, trivial, trivial, trivial⟩

/-! ### Values -/

/-- What the reader gives with some fuel: values, items and entries. -/
structure ReaderGives (fuel : Nat) : Prop where
  value : ∀ {cs v rest}, value fuel cs = .ok (v, rest) → Gives v
  items : ∀ {cs vs rest}, items fuel cs = .ok (vs, rest) → ∀ v ∈ vs, Gives v
  members : ∀ {before cs es rest}, GivesEntries before →
    members fuel before cs = .ok (es, rest) → GivesEntries es

theorem readerGives_zero : ReaderGives 0 :=
  ⟨fun h => by simp [Json.value] at h, fun h => by simp [Json.items] at h,
    fun _ h => by simp [Json.members] at h⟩

/-- A value is read from parts that are read with less fuel. -/
theorem gives_value_succ {fuel : Nat} (ih : ReaderGives fuel) {cs rest : List Char} {v : Value}
    (h : value (fuel + 1) cs = .ok (v, rest)) : Gives v := by
  rw [value.eq_def] at h
  split at h
  · exact absurd ‹_› (by simp)
  · next hf =>
    obtain rfl := Nat.succ.inj hf
    split at h
    -- a text
    · obtain ⟨⟨t, tail⟩, ht, hr⟩ := map_eq_ok_iff.1 h
      obtain ⟨rfl, -⟩ := Prod.mk.inj hr
      exact ⟨trivial, trivial, unsplit_literal ht, trivial, trivial⟩
    -- a table
    · split at h
      · obtain ⟨rfl, -⟩ := Prod.mk.inj (Except.ok.inj h)
        exact givesEntries_nil.table
      · obtain ⟨⟨es, tail⟩, hes, hr⟩ := map_eq_ok_iff.1 h
        obtain ⟨rfl, -⟩ := Prod.mk.inj hr
        exact (ih.members givesEntries_nil hes).table
    -- a list
    · split at h
      · obtain ⟨rfl, -⟩ := Prod.mk.inj (Except.ok.inj h)
        exact gives_list (by simp)
      · obtain ⟨⟨vs, tail⟩, hvs, hr⟩ := map_eq_ok_iff.1 h
        obtain ⟨rfl, -⟩ := Prod.mk.inj hr
        exact gives_list (ih.items hvs)
    case h_10 => exact gives_number h
    -- a word
    all_goals
      obtain ⟨rfl, -⟩ := Prod.mk.inj (Except.ok.inj h)
      exact ⟨trivial, trivial, trivial, trivial, trivial⟩

theorem gives_items_succ {fuel : Nat} (ih : ReaderGives fuel) {cs rest : List Char}
    {vs : List Value} (h : items (fuel + 1) cs = .ok (vs, rest)) : ∀ v ∈ vs, Gives v := by
  rw [items] at h
  obtain ⟨⟨v, after⟩, hv, h⟩ := bind_eq_ok_iff.1 h
  have hgives := ih.value hv
  dsimp only at h
  split at h
  · obtain ⟨rfl, -⟩ := Prod.mk.inj (Except.ok.inj h)
    exact List.forall_mem_singleton.2 hgives
  · obtain ⟨⟨ws, tail⟩, hws, h⟩ := map_eq_ok_iff.1 h
    obtain ⟨rfl, -⟩ := Prod.mk.inj h
    exact List.forall_mem_cons.2 ⟨hgives, ih.items hws⟩
  · exact absurd h (by simp)

theorem gives_members_succ {fuel : Nat} (ih : ReaderGives fuel) {before es : Entries}
    {cs rest : List Char} (hb : GivesEntries before)
    (h : members (fuel + 1) before cs = .ok (es, rest)) : GivesEntries es := by
  rw [members.eq_def] at h
  split at h
  · exact absurd ‹_› (by simp)
  · next hf =>
    obtain rfl := Nat.succ.inj hf
    split at h
    · obtain ⟨⟨key, after⟩, hkey, h⟩ := bind_eq_ok_iff.1 h
      dsimp only at h
      split at h
      · obtain ⟨⟨v, tail⟩, hv, h⟩ := bind_eq_ok_iff.1 h
        have hput := hb.put (unsplit_literal hkey) (ih.value hv)
        dsimp only at h
        split at h
        · obtain ⟨rfl, -⟩ := Prod.mk.inj (Except.ok.inj h)
          exact hput
        · exact ih.members hput h
        · exact absurd h (by simp)
      · exact absurd h (by simp)
    · exact absurd h (by simp)

/-- **The reader gives what has a text, with whatever fuel.** -/
theorem readerGives (fuel : Nat) : ReaderGives fuel := by
  induction fuel with
  | zero => exact readerGives_zero
  | succ fuel ih => exact ⟨gives_value_succ ih, gives_items_succ ih, gives_members_succ ih⟩

/-- **The reader gives what has a text.** -/
theorem gives_of_read {cs : List Char} {v : Value} (h : read cs = .ok v) : Gives v := by
  have hdoc : document cs = .ok v := by
    rw [read] at h
    split at h
    · next v hd => rw [hd, Except.ok.inj h]
    all_goals exact absurd h (by simp)
  rw [document.eq_def] at hdoc
  split at hdoc
  · exact absurd hdoc (by simp)
  · obtain ⟨⟨v, rest⟩, hv, hrest⟩ := bind_eq_ok_iff.1 hdoc
    dsimp only at hrest
    split at hrest
    · obtain rfl := Except.ok.inj hrest
      exact (readerGives _).value hv
    · exact absurd hrest (by simp)

/-- **A table that is read is regular.** -/
theorem regular_of_read {cs : List Char} {es : Entries} (h : read cs = .ok (.table es)) :
    es.Regular :=
  (gives_of_read h).regular_entries

end Json

end Tiered
