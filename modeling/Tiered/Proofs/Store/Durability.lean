import Mathlib
import Tiered.Proofs.Json.Regular
import Tiered.Proofs.Store.Loading

/-!
# Durability — what stays on the disk

What was saved is loaded as long as the snapshot file is read as it was left
(`loadSnapshot_of_saved`).  Loading a snapshot changes nothing on the disk, and neither does loading
an environment whose file is there or is not to be made (`loadEnvironment_state_of_settled`).  Once
an environment was loaded, that is so (`settled_of_loadEnvironment`), and it stays so on every disk
where more is there (`Settled.grows`).
-/

namespace Tiered

open Files

namespace Files.Disk

variable {d d' : Disk} {path : Text}

theorem exists?_eq_true_iff :
    d.exists? path = .ok true ↔ Nameable path ∧ ∃ node, d.look path.codes = .ok node := by
  constructor
  · intro h
    obtain ⟨node, hf, hnode⟩ := map_eq_ok_iff.1 h
    obtain ⟨node, rfl⟩ := Option.isSome_iff_exists.1 hnode
    exact ⟨nameable_of_exists? h, node, look_of_find hf⟩
  · rintro ⟨hn, node, hl⟩
    rw [exists?, find_of_look hn hl]
    rfl

/-- **What is there is there on a grown disk.** -/
theorem exists?_grows (h : Grows d d') (he : d.exists? path = .ok true) :
    d'.exists? path = .ok true := by
  obtain ⟨hn, node, hl⟩ := exists?_eq_true_iff.1 he
  obtain ⟨loc, hl, hnode⟩ := look_eq_ok_iff.1 hl
  obtain ⟨node', hnode'⟩ := Option.isSome_iff_exists.1 (h.there loc (by rw [hnode]; rfl))
  exact exists?_eq_true_iff.2 ⟨hn, node', look_eq_ok_iff.2 ⟨loc, locate_grows h hl, hnode'⟩⟩

end Files.Disk

namespace Store

section Snapshot

variable {path : Path} {es kept : Entries} {d d' : Disk}

/-! ### Saving -/

/-- What saved has made the folders and written the text of what is kept. -/
theorem written_of_saved (h : (saveSnapshot path es d).result = .ok kept) :
    kept = es.keep ∧ ∃ made cs, d.makeFolders path.parent = (made, none) ∧
      snapshotText es.keep = .ok cs ∧
      made.writeFile path.text (Text.Utf8.encode cs) = .ok (saveSnapshot path es d).state := by
  rw [saveSnapshot_eq] at h ⊢
  rcases hm : d.makeFolders path.parent with ⟨made, _ | fault⟩
  · cases ht : snapshotText es.keep with
    | error failure => simp [hm, ht] at h
    | ok cs =>
        cases hw : made.writeFile path.text (Text.Utf8.encode cs) with
        | error fault => simp [hm, ht, hw] at h
        | ok written =>
            simp only [hm, ht, hw, Except.ok.injEq] at h
            exact ⟨h.symm, made, cs, rfl, rfl, by simp only [hw]⟩
  · simp [hm] at h

/-- What saved has told what it left out, and that it saved the rest. -/
theorem events_of_saved (h : (saveSnapshot path es d).result = .ok kept) :
    (saveSnapshot path es d).events =
      skipReports es ++ [.snapshotSaved path.text es.keep.length] := by
  rw [saveSnapshot_eq] at h ⊢
  rcases hm : d.makeFolders path.parent with ⟨made, _ | fault⟩
  · cases ht : snapshotText es.keep with
    | error failure => simp [hm, ht] at h
    | ok cs =>
        cases hw : made.writeFile path.text (Text.Utf8.encode cs) with
        | error fault => simp [hm, ht, hw] at h
        | ok written => simp only [hw]
  · simp [hm] at h

theorem grows_of_saved (h : (saveSnapshot path es d).result = .ok kept) :
    d.Grows (saveSnapshot path es d).state := by
  obtain ⟨-, made, cs, hmake, -, hwrite⟩ := written_of_saved h
  have hway := Disk.makesWay_makeFolders d path.parent
  rw [hmake] at hway
  exact hway.grows.trans (Disk.writeFile_grows hwrite)

/-- **Saving takes nothing away**, also where it fails. -/
theorem saveSnapshot_grows (path : Path) (es : Entries) (d : Disk) :
    d.Grows (saveSnapshot path es d).state := by
  cases h : (saveSnapshot path es d).result with
  | ok kept => exact grows_of_saved h
  | error failure => exact (saveSnapshot_failed h).1.grows

/-- A table under texts that was saved is regular. -/
theorem regular_of_saved (h : (saveSnapshot path es d).result = .ok kept) (htexts : es.TextKeys)
    (hdistinct : es.Distinct) (hsound : ∀ e ∈ es, e.2.Sound) : es.Regular := by
  obtain ⟨-, made, cs, -, htext, -⟩ := written_of_saved h
  refine ⟨htexts, hdistinct, fun e he => ⟨hsound e he, fun hs => ?_⟩⟩
  exact (exists_snapshotText_iff.1 ⟨cs, htext⟩ e (Entries.mem_keep.2 ⟨he, hs⟩)).2

/-- **What was saved is loaded** from every disk where the file is read as it was left. -/
theorem loadSnapshot_of_saved (h : (saveSnapshot path es d).result = .ok kept) (hes : es.Regular)
    (hr : d'.readFile path.text = (saveSnapshot path es d).state.readFile path.text) :
    loadSnapshot path d' =
      ⟨.ok es.keep.reread, d', [.snapshotLoaded path.text es.keep.reread.length]⟩ := by
  obtain ⟨-, made, cs, -, htext, hwrite⟩ := written_of_saved h
  exact loadSnapshot_of_readFile hes htext (hr.trans (Disk.readFile_written hwrite))

/-! ### Loading a snapshot -/

/-- An object in a text is what the reader gives. -/
theorem gives_of_parse {f : ObjectFile} {cs : List Char} (h : f.parse path cs = .ok es) :
    Json.Gives (.table es) := by
  rw [ObjectFile.parse] at h
  cases hj : Json.read cs with
  | error malformation => cases malformation <;> simp [hj] at h
  | ok v =>
      cases v <;> simp [hj] at h
      exact h ▸ Json.gives_of_read hj

/-- What is loaded is what the reader gives. -/
theorem gives_of_loadSnapshot (h : (loadSnapshot path d).result = .ok es) :
    Json.Gives (.table es) := by
  rw [loadSnapshot_eq] at h
  rcases he : d.exists? path.text with fault | found
  · simp [he] at h
  cases found with
  | false =>
      simp only [he, Except.ok.injEq] at h
      exact h ▸ Json.givesEntries_nil.table
  | true =>
      rcases hr : d.readFile path.text with fault | octets
      · simp [he, hr] at h
      rcases ht : textOf octets with failure | cs
      · simp [he, hr, ht] at h
      simp only [he, hr, ht] at h
      split_ifs at h with hb
      · exact Except.ok.inj h ▸ Json.givesEntries_nil.table
      · cases hp : snapshotFile.parse path cs with
        | error failure => simp [hp] at h
        | ok fs =>
            simp only [hp, Except.ok.injEq] at h
            exact h ▸ gives_of_parse hp

/-- What is loaded is regular. -/
theorem regular_of_loadSnapshot (h : (loadSnapshot path d).result = .ok es) : es.Regular :=
  (gives_of_loadSnapshot h).regular_entries

end Snapshot

/-! ### Loading an environment -/

/-- Loading the environments at a path makes no file: it is not to be made, or it is there. -/
def Settled (path : Path) (createMissing : Bool) (d : Disk) : Prop :=
  createMissing = false ∨ d.exists? path.text = .ok true

section Settled

variable {path : Path} {createMissing : Bool} {d d' : Disk}

/-- What is read of the environments is what the reader gives. -/
theorem gives_of_readEnvironments {es : Entries}
    (h : (readEnvironments path createMissing d).result = .ok es) : Json.Gives (.table es) := by
  rw [readEnvironments_eq] at h
  rcases he : d.exists? path.text with fault | found
  · simp [he] at h
  cases found with
  | true =>
      rcases hr : d.readFile path.text with fault | octets
      · simp [he, hr] at h
      simp only [he, hr] at h
      obtain ⟨cs, -, hp⟩ := bind_eq_ok_iff.1 h
      exact gives_of_parse hp
  | false =>
      simp only [he] at h
      split_ifs at h
      · obtain ⟨u, -, hnil⟩ := map_eq_ok_iff.1 h
        exact hnil ▸ Json.givesEntries_nil.table
      · exact Except.ok.inj h ▸ Json.givesEntries_nil.table

theorem Settled.grows (h : Settled path createMissing d) (hd : d.Grows d') :
    Settled path createMissing d' :=
  h.imp_right (Disk.exists?_grows hd)

theorem readEnvironments_state_of_settled (h : Settled path createMissing d) :
    (readEnvironments path createMissing d).state = d := by
  rw [readEnvironments_eq]
  rcases he : d.exists? path.text with fault | found
  · rfl
  cases found with
  | true => cases hr : d.readFile path.text <;> rfl
  | false =>
      obtain rfl := h.resolve_right (by simp [he])
      rfl

/-- The file that was made is there. -/
theorem readFile_createEnvironments {u : Unit}
    (h : (createEnvironments path d).result = .ok u) :
    (createEnvironments path d).state.readFile path.text =
      .ok (Text.Utf8.encode emptyObject) := by
  rw [createEnvironments_eq] at h ⊢
  rcases hm : d.makeFolders path.parent with ⟨made, _ | fault⟩
  · cases hw : made.writeFile path.text (Text.Utf8.encode emptyObject) with
    | error fault => simp [hm, hw] at h
    | ok written => simpa only [hw] using Disk.readFile_written hw
  · simp [hm] at h

theorem settled_of_readEnvironments {es : Entries}
    (h : (readEnvironments path createMissing d).result = .ok es) :
    Settled path createMissing (readEnvironments path createMissing d).state := by
  rw [readEnvironments_eq] at h ⊢
  rcases he : d.exists? path.text with fault | found
  · simp [he] at h
  cases found with
  | true =>
      refine .inr ?_
      cases hr : d.readFile path.text <;> exact he
  | false =>
      cases createMissing with
      | false => exact .inl rfl
      | true =>
          simp only [he, if_true] at h ⊢
          obtain ⟨u, hcreate, -⟩ := map_eq_ok_iff.1 h
          exact .inr (Disk.exists?_of_readFile (readFile_createEnvironments hcreate))

variable {shownAs name : Text}

theorem loadEnvironment_state :
    (loadEnvironment shownAs (.text name) createMissing d).state =
      (readEnvironments (.ofText shownAs) createMissing d).state := by
  rw [loadEnvironment_eq]
  dsimp only
  cases (readEnvironments (.ofText shownAs) createMissing d).result.bind
    (selected shownAs (.text name)) <;> rfl

/-- **An environment that is loaded is what the reader gives.** -/
theorem gives_of_loadEnvironment {es : Entries}
    (h : (loadEnvironment shownAs (.text name) createMissing d).result = .ok es) :
    Json.Gives (.table es) := by
  rw [loadEnvironment_eq] at h
  cases hs : (readEnvironments (.ofText shownAs) createMissing d).result.bind
      (selected shownAs (.text name)) with
  | error failure => simp [hs] at h
  | ok entries =>
      simp only [hs, Except.ok.injEq] at h
      obtain ⟨environments, hread, hselected⟩ := bind_eq_ok_iff.1 hs
      rw [selected] at hselected
      split at hselected
      · exact h ▸ Except.ok.inj hselected ▸ Json.givesEntries_nil.table
      · next fs hget =>
        obtain ⟨e, he, hv⟩ := Option.map_eq_some_iff.1 hget
        have hgives :=
          (gives_of_readEnvironments hread).entries.values e (List.mem_of_find?_eq_some he)
        rw [hv, Except.ok.inj hselected, h] at hgives
        exact hgives
      · exact absurd hselected (by simp)

/-- **Where no file is to be made, loading an environment changes nothing.** -/
theorem loadEnvironment_state_of_settled (h : Settled (.ofText shownAs) createMissing d) :
    (loadEnvironment shownAs (.text name) createMissing d).state = d :=
  loadEnvironment_state.trans (readEnvironments_state_of_settled h)

/-- **Where an environment was loaded, no file is to be made any more.** -/
theorem settled_of_loadEnvironment {es : Entries}
    (h : (loadEnvironment shownAs (.text name) createMissing d).result = .ok es) :
    Settled (.ofText shownAs) createMissing
      (loadEnvironment shownAs (.text name) createMissing d).state := by
  rw [loadEnvironment_state]
  rw [loadEnvironment_eq] at h
  cases hr : (readEnvironments (.ofText shownAs) createMissing d).result with
  | error failure => simp [hr, Except.bind] at h
  | ok environments => exact settled_of_readEnvironments hr

end Settled

end Store

end Tiered
