import Mathlib
import Tiered.Proofs.Store.Alike
import Tiered.Proofs.Store.Durability

/-!
# Keys — variables under keys that are no texts

A file can keep a table inside a value only if the table is under texts.  Of a table of variables
each entry is kept for its value alone, whatever its key is.  So what is kept can be kept as a whole
exactly when it is under texts (`serializable_keep_iff`).  A key that is no text is written as the
text that it has, and under that text it is loaded, in the place of what stands there already
(`loadSnapshot_of_saved_named`).
-/

namespace Tiered

namespace Json

variable {style : Style} {es : Entries}

theorem textKeys_named : (named style es).TextKeys := List.forall_mem_map.2 fun _ _ => ⟨_, rfl⟩

/-- A text is written as it is. -/
theorem named_of_textKeys (h : es.TextKeys) : named style es = es := by
  have hsame : ∀ e ∈ es,
      (Value.text ((keyText style e.1).toOption.getD ⟨[]⟩), e.2) = id e := by
    rintro ⟨k, v⟩ he
    obtain ⟨t, ht⟩ := h _ he
    dsimp only at ht
    rw [ht, keyText]
    rfl
  exact (List.map_congr_left hsame).trans (List.map_id es)

/-- **A table comes back under the texts of its keys as it is, but for tuples, exactly when its keys
are texts and nothing in it holds a pair.** -/
theorem reread_named_eq_iff (h : (Value.table es).Sound) :
    (named style es).reread = es.listed ↔ es.TextKeys ∧ (Value.table es).Unsplit := by
  constructor
  · intro heq
    have htexts : es.TextKeys := by
      rw [← Entries.textKeys_listed, ← heq]
      exact Entries.textKeys_reread textKeys_named
    rw [named_of_textKeys htexts] at heq
    exact ⟨htexts, (Entries.reread_eq_listed_iff h).1 heq⟩
  · rintro ⟨htexts, hunsplit⟩
    rw [named_of_textKeys htexts]
    exact (Entries.reread_eq_listed_iff h).2 hunsplit

end Json

namespace Store

open Files

section Saved

variable {path : Path} {es kept : Entries} {d d' : Disk}

/-- **What was saved is loaded under the texts of its keys**, from every disk where the file is read
as it was left. -/
theorem loadSnapshot_of_saved_named (h : (saveSnapshot path es d).result = .ok kept)
    (hr : d'.readFile path.text = (saveSnapshot path es d).state.readFile path.text) :
    (loadSnapshot path d').result = .ok (Json.named .indented kept).reread := by
  obtain ⟨rfl, made, cs, -, htext, hwrite⟩ := written_of_saved h
  have hread := hr.trans (Disk.readFile_written hwrite)
  have hloaded := (holds_saved htext).loaded path d'
  rw [loadedFrom] at hloaded
  rw [loadSnapshot_eq, Disk.exists?_of_readFile hread, hread]
  exact congrArg Outcome.result hloaded

/-- Where a file can be written, saving comes to what making the text comes to. -/
theorem saveSnapshot_result_of_admits (ha : d.Admits path) :
    (saveSnapshot path es d).result = (snapshotText es.keep).map fun _ => es.keep := by
  obtain ⟨made, hmake, hwrite⟩ := ha.writeFile
  rw [saveSnapshot_eq, hmake]
  cases snapshotText es.keep with
  | error failure => rfl
  | ok cs =>
      obtain ⟨written, hw⟩ := hwrite (Text.Utf8.encode cs)
      dsimp only
      rw [hw]
      rfl

/-- **Filtering looks at the values, checking also at the keys.**  Let no table have a key twice.
Then the entries whose values a file can keep are kept, whatever their keys are.

* The table of them is one that a file can keep exactly when its keys are texts.
* The whole table is one exactly when every entry is kept and every key is a text.
* What was saved is loaded, as long as the file is as it was left, under the texts of its keys,
  where of keys that are read as one text the first gives the place and the last the value.  That is
  what was kept, entry for entry and with its tuples turned into lists, exactly when the keys are
  texts and no text, at any depth, holds a high surrogate right before a low one. -/
theorem kept_and_checked (es : Entries) (hes : (Value.table es).Sound) :
    (∀ {σ : Type} (s : σ), (keepSerializable es s).result = .ok es.keep) ∧
      ((Value.table es.keep).serializable = true ↔ es.keep.TextKeys) ∧
      ((Value.table es).serializable = true ↔ es.keep = es ∧ es.TextKeys) ∧
      ∀ (path : Path) (d d' : Disk) (kept : Entries),
        (saveSnapshot path es d).result = .ok kept →
        d'.readFile path.text = (saveSnapshot path es d).state.readFile path.text →
        kept = es.keep ∧ ∃ loaded, (loadSnapshot path d').result = .ok loaded ∧
          loaded = (Json.named .indented kept).reread ∧
          (loaded = kept.listed ↔ kept.TextKeys ∧ (Value.table kept).Unsplit) := by
  obtain ⟨hdistinct, hsound⟩ := hes
  rw [Value.soundEntries_iff] at hsound
  refine ⟨fun s => ?_, Entries.serializable_keep_iff,
    Entries.serializable_table_iff.trans And.comm, fun path d d' kept h hr => ?_⟩
  · rw [keepSerializable, Action.bind_apply, Action.emitAll_apply]
    rfl
  · have hloaded := loadSnapshot_of_saved_named h hr
    obtain ⟨rfl, -⟩ := written_of_saved h
    have hkept : (Value.table es.keep).Sound := ⟨hdistinct.filter _, Value.soundEntries_iff.2
      fun e he => hsound e (Entries.mem_keep.1 he).1⟩
    exact ⟨rfl, _, hloaded, rfl, Json.reread_named_eq_iff hkept⟩

/-- Under a key that is no text an entry is kept, in a table that no file can keep as a table. -/
theorem kept_unchecked :
    (keepSerializable [(.int 1, .text "a")] ()).result = .ok [(.int 1, .text "a")] ∧
      (Value.table [(.int 1, .text "a")]).serializable = false := ⟨rfl, rfl⟩

/-- A truth value and its text as keys. -/
def doubled : Entries := [(.bool true, .text "a"), (.text "true", .tuple []), (.text "s", .set [])]

/-- The set is left out.  Of the two entries that are saved one is loaded. -/
theorem kept_and_checked_doubled :
    (Value.table doubled.keep).serializable = false ∧
      (loadSnapshot (.ofText ".snapshot.json")
        (saveSnapshot (.ofText ".snapshot.json") doubled (.bare [[0x77]])).state).result =
          .ok [(.text "true", .list [])] := by
  have hes : (Value.table doubled).Sound := by
    simp [doubled, Value.Sound, Value.SoundEntries, Value.SoundItems, Entries.Distinct,
      Value.equals, Value.equals_text]
    decide
  have hkept : doubled.keep = [(.bool true, .text "a"), (.text "true", .tuple [])] := rfl
  obtain ⟨cs, htext⟩ : ∃ cs, snapshotText doubled.keep = .ok cs := by
    refine exists_snapshotText_iff.2 ?_
    simp [hkept, Json.Keyable, Value.Spellable, Value.SpellableItems]
  have hsave : (saveSnapshot (.ofText ".snapshot.json") doubled (.bare [[0x77]])).result =
      .ok doubled.keep := by
    rw [saveSnapshot_result_of_admits admits_bare, htext]
    rfl
  obtain ⟨-, hchecked, -, hload⟩ := kept_and_checked doubled hes
  obtain ⟨-, loaded, hloaded, rfl, -⟩ := hload _ _ _ _ hsave rfl
  refine ⟨?_, hloaded.trans ?_⟩
  · rw [← Bool.not_eq_true, hchecked, hkept]
    simp [Entries.TextKeys]
  · rw [hkept]
    simp [Json.named, Json.keyText, Entries.reread, Entries.ofPairs, Entries.putAll, Entries.put,
      Value.joinedKey, Value.reread, Value.rereadItems, Value.equals_text, Text.joined_ofString,
      Except.toOption]

end Saved

end Store

end Tiered
