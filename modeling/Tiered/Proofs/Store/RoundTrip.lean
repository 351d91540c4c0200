import Mathlib
import Tiered.Files.Listing
import Tiered.Proofs.Files.Write
import Tiered.Proofs.Json.Written
import Tiered.Proofs.Store.Outcome

/-!
# RoundTrip — snapshots that are loaded as they were saved

What a snapshot file keeps of a table under texts has a text (`exists_snapshotText_iff`) that is
read as what comes back of the table (`read_snapshotText`).  So saving and loading gives back what
was kept, with its tuples turned into lists, as long as it holds no pair of surrogates, and saving
what was loaded changes no octet, as long as no two keys became one (`load_save_snapshot`).
-/

namespace Tiered

namespace Entries

theorem keep_eq_self {es : Entries} (h : ∀ e ∈ es, e.2.serializable = true) : es.keep = es :=
  List.filter_eq_self.2 h

theorem serializable_reread_keep (es : Entries) :
    ∀ e ∈ es.keep.reread, e.2.serializable = true := fun e he =>
  (forall_mem_ofPairs (P := fun _ => True) (Q := fun v => v.serializable = true)
    (List.forall_mem_map.2 fun _ he =>
      ⟨trivial, Value.serializable_reread (mem_keep.1 he).2⟩) e he).2

theorem keep_reread_keep (es : Entries) : es.keep.reread.keep = es.keep.reread :=
  keep_eq_self (serializable_reread_keep es)

theorem skipped_reread_keep (es : Entries) : es.keep.reread.skipped = [] :=
  List.filter_eq_nil_iff.2 fun e he => by simp [serializable_reread_keep es e he]

theorem Regular.sound_table {es : Entries} (h : es.Regular) : (Value.table es).Sound := by
  refine ⟨h.distinct, Value.soundEntries_iff.2 fun e he => ⟨?_, (h.values e he).sound⟩⟩
  obtain ⟨t, ht⟩ := h.texts e he
  rw [ht]
  trivial

end Entries

namespace Store

open Files

theorem snapshotText_eq_ok_iff {es : Entries} {cs : List Char} :
    snapshotText es = .ok cs ↔ Json.write .indented (.table es) = .ok cs := by
  rw [snapshotText]
  cases Json.write .indented (.table es) <;> simp

theorem ascii_indented : Json.Style.indented.Ascii :=
  ⟨⟨by simp [Json.Style.indented], by simp [Json.Style.indented]⟩, rfl⟩

/-- **What is kept of a table has a text exactly when its keys and its whole numbers have one.** -/
theorem exists_snapshotText_iff {es : Entries} :
    (∃ cs, snapshotText es.keep = .ok cs) ↔
      ∀ e ∈ es.keep, Json.Keyable e.1 ∧ e.2.Spellable := by
  simp only [snapshotText_eq_ok_iff, Json.write, Json.writeAt, Json.exists_map_iff,
    Json.exists_writeEntries_iff]
  refine forall₂_congr fun e he => and_congr (Json.exists_keyText_iff rfl) ?_
  exact Json.exists_writeAt_iff (Entries.mem_keep.1 he).2

/-- What is kept of a regular table has a text. -/
theorem exists_snapshotText {es : Entries} (h : es.Regular) :
    ∃ cs, snapshotText es.keep = .ok cs := by
  refine exists_snapshotText_iff.2 fun e he => ⟨?_, ?_⟩
  · obtain ⟨t, ht⟩ := h.keep.texts e he
    rw [ht]
    trivial
  · exact (h.keep.values e he).spellable (Entries.mem_keep.1 he).2

/-- The text of a snapshot begins with a bracket. -/
theorem snapshotText_head {es : Entries} {cs : List Char} (h : snapshotText es = .ok cs) :
    ∃ rest, cs = '\x7b' :: rest := by
  obtain ⟨ps, -, rfl⟩ := map_eq_ok_iff.1 (snapshotText_eq_ok_iff.1 h)
  rw [Json.bracketed]
  split_ifs
  · exact ⟨_, rfl⟩
  · exact ⟨_, rfl⟩

theorem not_allBlank_snapshotText {es : Entries} {cs : List Char}
    (h : snapshotText es = .ok cs) : Text.allBlank cs = false := by
  obtain ⟨rest, rfl⟩ := snapshotText_head h
  simp [Text.allBlank, Text.isBlank, Text.isBlankNumber]

/-- **The octets of a snapshot are read as its text**, for it is ASCII on lines that end in line
feeds. -/
theorem textOf_snapshotText {es : Entries} {cs : List Char}
    (h : snapshotText es.keep = .ok cs) : textOf (Text.Utf8.encode cs) = .ok cs := by
  have hprinted := Json.printed_table ascii_indented.toBlank rfl
    (fun e he p hp => Json.printed_writeAt ascii_indented.toBlank rfl (Entries.mem_keep.1 he).2 hp)
    (snapshotText_eq_ok_iff.1 h)
  rw [textOf, decode, Text.Utf8.decode_ascii fun c hc => (hprinted c hc).1]
  exact congrArg Except.ok (Text.Lines.unify_of_no_return fun hr => (hprinted _ hr).2 rfl)

/-- **The text of a snapshot is read as what comes back of the table that was kept.** -/
theorem read_snapshotText {es : Entries} (hes : es.Regular) {cs : List Char}
    (h : snapshotText es.keep = .ok cs) : Json.read cs = .ok (.table es.keep.reread) := by
  have hv : (Value.table es.keep).serializable = true :=
    Entries.serializable_keep_iff.2 hes.keep.texts
  rw [Json.read_write ascii_indented hv (snapshotText_eq_ok_iff.1 h), Value.reread_table]

theorem snapshotText_reread {es : Entries} (h : (Value.table es).KeysApart) :
    snapshotText es.reread = snapshotText es := by
  have hwrite := Json.writeAt_reread ascii_indented 0 h
  rw [Value.reread_table] at hwrite
  rw [snapshotText, snapshotText, Json.write, Json.write, hwrite]

section Saved

variable {path : Path} {es : Entries} {cs : List Char} {d d' : Disk}

/-- Loading a file that holds the text of what is kept gives what was kept. -/
theorem loadSnapshot_of_readFile (hes : es.Regular) (h : snapshotText es.keep = .ok cs)
    (hr : d.readFile path.text = .ok (Text.Utf8.encode cs)) :
    loadSnapshot path d =
      ⟨.ok es.keep.reread, d, [.snapshotLoaded path.text es.keep.reread.length]⟩ := by
  rw [loadSnapshot_eq, Disk.exists?_of_readFile hr, hr]
  simp only [textOf_snapshotText h, not_allBlank_snapshotText h, Bool.false_eq_true, if_false,
    ObjectFile.parse, read_snapshotText hes h]

/-- Loading what was written is reading its text. -/
theorem loadSnapshot_written (hes : es.Regular) (h : snapshotText es.keep = .ok cs)
    (hw : d.writeFile path.text (Text.Utf8.encode cs) = .ok d') :
    loadSnapshot path d' =
      ⟨.ok es.keep.reread, d', [.snapshotLoaded path.text es.keep.reread.length]⟩ :=
  loadSnapshot_of_readFile hes h (Disk.readFile_written hw)

/-- Saving again what was loaded changes nothing, unless two keys became one. -/
theorem saveSnapshot_written (hp : path.WellFormed) (hapart : (Value.table es.keep).KeysApart)
    (h : snapshotText es.keep = .ok cs)
    (hw : d.writeFile path.text (Text.Utf8.encode cs) = .ok d') :
    saveSnapshot path es.keep.reread d' =
      ⟨.ok es.keep.reread, d', [.snapshotSaved path.text es.keep.reread.length]⟩ := by
  have htext : snapshotText es.keep.reread = .ok cs := (snapshotText_reread hapart).trans h
  simp only [saveSnapshot_eq, Disk.makeFolders_written hp hw, htext, Disk.writeFile_written hw,
    skipReports, Entries.skipped_reread_keep, Entries.keep_reread_keep, List.map_nil,
    List.nil_append]

/-- **Saving succeeds exactly where a file can be written and what is kept has a text.** -/
theorem exists_saved_iff : (∃ kept, (saveSnapshot path es d).result = .ok kept) ↔
    d.Admits path ∧ ∀ e ∈ es.keep, Json.Keyable e.1 ∧ e.2.Spellable := by
  rw [saveSnapshot_eq, ← exists_snapshotText_iff]
  constructor
  · rintro ⟨kept, h⟩
    rcases hm : d.makeFolders path.parent with ⟨made, _ | fault⟩
    · cases ht : snapshotText es.keep with
      | error failure => simp [hm, ht] at h
      | ok cs =>
          cases hw : made.writeFile path.text (Text.Utf8.encode cs) with
          | error fault => simp [hm, ht, hw] at h
          | ok written => exact ⟨⟨made, _, written, hm, hw⟩, cs, rfl⟩
    · simp [hm] at h
  · rintro ⟨ha, cs, ht⟩
    obtain ⟨made, hmake, hwrite⟩ := ha.writeFile
    obtain ⟨saved, hw⟩ := hwrite (Text.Utf8.encode cs)
    exact ⟨es.keep, by simp only [hmake, ht, hw]⟩

/-- Saving a regular table succeeds exactly where a file can be written. -/
theorem exists_saveSnapshot_iff (hes : es.Regular) :
    (∃ kept, (saveSnapshot path es d).result = .ok kept) ↔ d.Admits path :=
  exists_saved_iff.trans (and_iff_left (exists_snapshotText_iff.1 (exists_snapshotText hes)))

/-- Where a file can be written, saving a regular table writes the text of what is kept. -/
theorem exists_saveSnapshot (hes : es.Regular) (ha : d.Admits path) :
    ∃ (saved made : Disk) (cs : List Char), snapshotText es.keep = .ok cs ∧
      made.writeFile path.text (Text.Utf8.encode cs) = .ok saved ∧
      saveSnapshot path es d = ⟨.ok es.keep, saved,
        (es.skipped.map fun e => .valueSkipped e.1 e.2.kind) ++
          [.snapshotSaved path.text es.keep.length]⟩ := by
  obtain ⟨cs, htext⟩ := exists_snapshotText hes
  obtain ⟨made, hmake, hwrite⟩ := ha.writeFile
  obtain ⟨saved, hw⟩ := hwrite (Text.Utf8.encode cs)
  exact ⟨saved, made, cs, htext, hw, by simp only [saveSnapshot_eq, hmake, htext, hw, skipReports]⟩

/-- **What was saved is loaded.**  Where a file can be written, saving a regular table gives exactly
the entries that a file can keep, in order, and reports every other entry once, in order.

* Loading gives what comes back of what was kept.  That is what was kept, with its tuples turned
  into lists and nothing else changed, exactly when no text in it holds a high surrogate right
  before a low one; such a pair comes back as the character that it stands for.
* Saving what was loaded leaves every file as it is, as long as no two keys became one. -/
theorem load_save_snapshot (hp : path.WellFormed) (hes : es.Regular) (ha : d.Admits path) :
    ∃ saved, saveSnapshot path es d = ⟨.ok es.keep, saved,
        (es.skipped.map fun e => .valueSkipped e.1 e.2.kind) ++
          [.snapshotSaved path.text es.keep.length]⟩ ∧
      loadSnapshot path saved =
        ⟨.ok es.keep.reread, saved, [.snapshotLoaded path.text es.keep.reread.length]⟩ ∧
      (es.keep.reread = es.keep.listed ↔ (Value.table es.keep).Unsplit) ∧
      ((Value.table es.keep).KeysApart → saveSnapshot path es.keep.reread saved =
        ⟨.ok es.keep.reread, saved, [.snapshotSaved path.text es.keep.reread.length]⟩) := by
  obtain ⟨saved, made, cs, htext, hw, hsave⟩ := exists_saveSnapshot hes ha
  exact ⟨saved, hsave, loadSnapshot_written hes htext hw,
    Entries.reread_eq_listed_iff hes.keep.sound_table,
    fun hapart => saveSnapshot_written hp hapart htext hw⟩

/-- In a folder that holds nothing, a snapshot file can be written. -/
theorem admits_bare : (Disk.bare [[0x77]]).Admits (.ofText ".snapshot.json") := by
  have hn : Nameable (Path.ofText ".snapshot.json").parent.text := ⟨by decide, by decide⟩
  exact ⟨_, [], _, Disk.makeFolders_of_folder hn (by rfl), by rfl⟩

/-- A tuple, a set, and a table with a negative zero. -/
def mixed : Entries :=
  [(.text "a", .tuple [.int 1, .bool true, .text "\r"]), (.text "b", .set []),
    (.text "c", .table [(.text "x", .float (.finite true .zero))])]

/-- A tuple that holds a one, a true and a text of a carriage return comes back as a list, the
negative zero keeps its sign, and the set is left out. -/
theorem load_save_snapshot_mixed : ∃ saved,
    saveSnapshot (.ofText ".snapshot.json") mixed (.bare [[0x77]]) =
      ⟨.ok [(.text "a", .tuple [.int 1, .bool true, .text "\r"]),
          (.text "c", .table [(.text "x", .float (.finite true .zero))])], saved,
        [.valueSkipped (.text "b") "set", .snapshotSaved ".snapshot.json" 2]⟩ ∧
    loadSnapshot (.ofText ".snapshot.json") saved =
      ⟨.ok [(.text "a", .list [.int 1, .bool true, .text "\r"]),
          (.text "c", .table [(.text "x", .float (.finite true .zero))])], saved,
        [.snapshotLoaded ".snapshot.json" 2]⟩ := by
  have hes : mixed.Regular := by
    refine ⟨by simp [mixed, Entries.TextKeys],
      by simp [mixed, Entries.Distinct, Value.equals_text]; decide, ?_⟩
    simp only [mixed, List.forall_mem_cons]
    refine ⟨⟨by simp [Value.Sound, Value.SoundItems], ?_⟩, ⟨trivial, by simp [Value.serializable]⟩,
      ⟨⟨List.pairwise_singleton _ _, ⟨trivial, trivial⟩, trivial⟩, fun _ => ⟨trivial, trivial⟩⟩,
      by simp⟩
    simp [Value.Spellable, Value.SpellableItems, Number.Decimal.digits, Number.Decimal.digitsOnto,
      Number.Decimal.maxDigits]
  have hunsplit : (Value.table mixed.keep).Unsplit := by
    simp [mixed, Entries.keep, Value.serializable, Value.serializableItems,
      Value.serializableEntries, Value.text?, Value.Unsplit, Value.UnsplitEntries,
      Value.UnsplitItems, Value.UnsplitKey, Text.unsplit_ofString, Number.Double.isFinite]
  obtain ⟨saved, hsave, hload, hsame, -⟩ :=
    load_save_snapshot (Path.wellFormed_ofCodes _) hes admits_bare
  rw [hsame.2 hunsplit] at hload
  exact ⟨saved, hsave, hload⟩

/-- Two texts with one literal: in the first one a pair, in the second the character that it stands
for. -/
def paired : Entries :=
  [(.text ⟨[0xDE00, 0xD83D, 0xDE00, 0xD83D]⟩, .bool true),
    (.text ⟨[0xDE00, 0x1F600, 0xD83D]⟩, .bool false)]

theorem regular_paired : paired.Regular := by
  refine ⟨by simp [paired, Entries.TextKeys],
    by simp [paired, Entries.Distinct, Value.equals_text], ?_⟩
  simp only [paired, List.forall_mem_cons]
  exact ⟨⟨trivial, fun _ => trivial⟩, ⟨trivial, fun _ => trivial⟩, by simp⟩

theorem reread_paired :
    paired.keep.reread = [(.text ⟨[0xDE00, 0x1F600, 0xD83D]⟩, .bool false)] := by
  have hpair : Text.joined ⟨[0xDE00, 0xD83D, 0xDE00, 0xD83D]⟩ = ⟨[0xDE00, 0x1F600, 0xD83D]⟩ := by
    decide
  have hwhole : Text.joined ⟨[0xDE00, 0x1F600, 0xD83D]⟩ = ⟨[0xDE00, 0x1F600, 0xD83D]⟩ := by decide
  have hkeep : paired.keep = paired := rfl
  rw [hkeep, paired, Entries.reread, List.map_cons, List.map_cons, List.map_nil]
  simp [Entries.ofPairs, Entries.putAll, Entries.put, Value.joinedKey, Value.reread,
    Value.equals_text, hpair, hwhole]

/-- **Of two entries that are saved one is loaded**, if their keys have one literal. -/
theorem load_save_snapshot_paired : ∃ saved,
    saveSnapshot (.ofText ".snapshot.json") paired (.bare [[0x77]]) =
      ⟨.ok paired, saved, [.snapshotSaved ".snapshot.json" 2]⟩ ∧
    loadSnapshot (.ofText ".snapshot.json") saved =
      ⟨.ok [(.text ⟨[0xDE00, 0x1F600, 0xD83D]⟩, .bool false)], saved,
        [.snapshotLoaded ".snapshot.json" 1]⟩ := by
  obtain ⟨saved, made, cs, htext, hw, hsave⟩ := exists_saveSnapshot regular_paired admits_bare
  have hload := loadSnapshot_written regular_paired htext hw
  rw [reread_paired] at hload
  exact ⟨saved, hsave, hload⟩

end Saved

end Store

end Tiered
