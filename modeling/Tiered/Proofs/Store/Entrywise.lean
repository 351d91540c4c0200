import Mathlib
import Tiered.Proofs.Json.Refused
import Tiered.Proofs.Store.Keys
import Tiered.Proofs.Store.Saving

/-!
# Entrywise — when one value keeps the others from being saved

Which entries of a table a file can keep is decided entry by entry, but those that it can keep are
written as one text.  A value that is kept and has no text is then in the way of all the others.
Only a whole number that is too long can be in the way like that (`overlong_of_snapshotText`).  So
saving a table under texts, where a file can be written, succeeds exactly when no such number is in
what is kept (`Entries.Savable`), and fails because of such a number otherwise.
-/

namespace Tiered

/-- Every value that a file can keep has a text. -/
def Entries.Savable (es : Entries) : Prop :=
  ∀ e ∈ es, e.2.serializable = true → e.2.Spellable

namespace Store

open Files

section Savable

variable {path : Path} {es : Entries} {d : Disk}

/-- What is kept of a table under texts has a text exactly when its values do. -/
theorem exists_snapshotText_iff_savable (htexts : es.TextKeys) :
    (∃ cs, snapshotText es.keep = .ok cs) ↔ es.Savable := by
  rw [exists_snapshotText_iff]
  constructor
  · exact fun h e he hs => (h e (Entries.mem_keep.2 ⟨he, hs⟩)).2
  · intro h e he
    obtain ⟨t, ht⟩ := htexts.keep e he
    obtain ⟨hmem, hs⟩ := Entries.mem_keep.1 he
    refine ⟨?_, h e hmem hs⟩
    rw [ht]
    trivial

/-- **If what is kept of a table under texts has no text, a whole number is too long.** -/
theorem overlong_of_snapshotText (htexts : es.TextKeys) {failure : Failure}
    (h : snapshotText es.keep = .error failure) : failure = .overlong none := by
  rw [snapshotText] at h
  cases hw : Json.write .indented (.table es.keep) with
  | ok cs => simp [hw] at h
  | error refusal =>
      obtain rfl := Json.overlong_of_serializable
        (Entries.serializable_keep_iff.2 htexts.keep) hw
      simpa [hw, Failure.ofRefusal, eq_comm] using h

theorem unsavable_iff (htexts : es.TextKeys) (path : Path) :
    Unsavable path es ↔ ¬ (Nameable path.text ∧ es.Savable) := by
  rw [not_and_or, ← exists_snapshotText_iff_savable htexts, exists_snapshotText_iff, Unsavable]
  push Not
  rfl

/-- **When one value keeps the others from being saved.**  Let a table be under texts.

* Where a file can be written, saving succeeds exactly when every value that a file can keep has a
  text, and what it fails by otherwise is a whole number that is too long.
* Saving that succeeds gives the entries that a file can keep, and the file is read as what comes
  back of all of them: they themselves with tuples turned into lists exactly when no text in them
  holds a pair of surrogates.
* Every failure is one to use the snapshot file exactly when the disk refuses to make the folders
  above it, or a file can have the path and every value that a file can keep has a text. -/
theorem saving_entries (hp : path.WellFormed) (htexts : es.TextKeys)
    (hes : (Value.table es).Sound) (d : Disk) :
    (d.Admits path →
      ((∃ kept, (saveSnapshot path es d).result = .ok kept) ↔ es.Savable) ∧
        ∀ failure, (saveSnapshot path es d).result = .error failure →
          failure = .overlong none) ∧
      (∀ kept, (saveSnapshot path es d).result = .ok kept → kept = es.keep ∧
        ∃ octets, (saveSnapshot path es d).state.readFile path.text = .ok octets ∧
          Holds octets es.keep.reread ∧
          (es.keep.reread = es.keep.listed ↔ (Value.table es.keep).Unsplit)) ∧
      ((∀ failure, (saveSnapshot path es d).result = .error failure →
          ∃ reason, failure = .snapshotFile path reason) ↔
        d.RefusesFolder path ∨ (Nameable path.text ∧ es.Savable)) := by
  obtain ⟨hdistinct, hsound⟩ := hes
  rw [Value.soundEntries_iff] at hsound
  refine ⟨fun ha => ?_, fun kept h => ?_, ?_⟩
  · rw [saveSnapshot_result_of_admits ha, ← exists_snapshotText_iff_savable htexts]
    exact ⟨Json.exists_map_iff, fun failure h =>
      overlong_of_snapshotText htexts (map_eq_error_iff.1 h)⟩
  · have hregular := regular_of_saved h htexts hdistinct fun e he => (hsound e he).2
    obtain ⟨rfl, made, cs, -, htext, hwrite⟩ := written_of_saved h
    exact ⟨rfl, _, Disk.readFile_written hwrite,
      ⟨cs, textOf_snapshotText htext, read_snapshotText hregular htext⟩,
      Entries.reread_eq_listed_iff hregular.keep.sound_table⟩
  · refine ((straysWhen_saveSnapshot hp es d).told_iff known_snapshotFile).trans ?_
    rw [unsavable_iff htexts, not_and_or, not_not, not_not]

/-- Two values that a file can keep, and between them one that it cannot. -/
def assorted : Entries :=
  [(.text "a", .tuple [.int 1]), (.text "f", .notFound), (.text "b", .none)]

/-- The value that a file cannot keep does not keep the others from being saved. -/
theorem saving_entries_assorted :
    (saveSnapshot (.ofText ".snapshot.json") assorted (.bare [[0x77]])).result =
        .ok [(.text "a", .tuple [.int 1]), (.text "b", .none)] ∧
      ∃ octets, (saveSnapshot (.ofText ".snapshot.json") assorted
          (.bare [[0x77]])).state.readFile (Path.ofText ".snapshot.json").text = .ok octets ∧
        Holds octets [(.text "a", .list [.int 1]), (.text "b", .none)] := by
  have htexts : assorted.TextKeys := by simp [assorted, Entries.TextKeys]
  have hes : (Value.table assorted).Sound := by
    simp [assorted, Value.Sound, Value.SoundEntries, Value.SoundItems, Entries.Distinct,
      Value.equals_text]
    decide
  have hsavable : assorted.Savable := by
    simp [assorted, Entries.Savable, Value.Spellable, Value.SpellableItems,
      Number.Decimal.digits, Number.Decimal.digitsOnto, Number.Decimal.maxDigits]
  obtain ⟨hadmits, hsaved, -⟩ :=
    saving_entries (Path.wellFormed_ofCodes _) htexts hes (.bare [[0x77]])
  obtain ⟨kept, hkept⟩ := (hadmits admits_bare).1.2 hsavable
  obtain ⟨rfl, octets, hread, hholds, hsame⟩ := hsaved kept hkept
  have hunsplit : (Value.table assorted.keep).Unsplit := by
    rw [show assorted.keep = [(.text "a", .tuple [.int 1]), (.text "b", .none)] from rfl]
    simp [Value.Unsplit, Value.UnsplitEntries, Value.UnsplitItems, Value.UnsplitKey,
      Text.unsplit_ofString]
  rw [hsame.2 hunsplit] at hholds
  exact ⟨hkept, octets, hread, hholds⟩

/-- A natural number behind another entry. -/
def numbered (n : Nat) : Entries := [(.text "a", .int 1), (.text "big", .int n)]

theorem textKeys_numbered (n : Nat) : (numbered n).TextKeys := by
  simp [numbered, Entries.TextKeys]

/-- A number that is too long keeps the other entry from being saved. -/
theorem saveSnapshot_numbered {n : Nat} (hn : 10 ^ Number.Decimal.maxDigits ≤ n)
    (ha : d.Admits path) :
    (saveSnapshot path (numbered n) d).result = .error (.overlong none) := by
  rw [saveSnapshot_result_of_admits ha]
  cases htext : snapshotText (numbered n).keep with
  | ok cs =>
      have hsavable := (exists_snapshotText_iff_savable (textKeys_numbered n)).1 ⟨cs, htext⟩
      have hmem : (Value.text "big", Value.int n) ∈ numbered n := by simp [numbered]
      exact absurd (hsavable _ hmem rfl) (Value.not_spellable_of_le hn)
  | error failure =>
      rw [overlong_of_snapshotText (textKeys_numbered n) htext]
      rfl

/-- A file could be written, and it could keep both values, but for the number that is too long
neither is saved, and the failure is none to use the file. -/
theorem saving_entries_lengthy :
    (Disk.bare [[0x77]]).Admits (.ofText ".snapshot.json") ∧ (numbered (10 ^ 5000)).TextKeys ∧
      (∀ e ∈ numbered (10 ^ 5000), e.2.serializable = true) ∧
      (saveSnapshot (.ofText ".snapshot.json") (numbered (10 ^ 5000)) (.bare [[0x77]])).result =
        .error (.overlong none) := by
  have hserializable : ∀ n, ∀ e ∈ numbered n, e.2.serializable = true := by
    simp [numbered, Value.serializable]
  exact ⟨admits_bare, textKeys_numbered _, hserializable _,
    saveSnapshot_numbered (Nat.pow_le_pow_right (by decide) (by decide)) admits_bare⟩

end Savable

end Store

end Tiered
