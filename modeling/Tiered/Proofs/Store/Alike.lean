import Mathlib
import Tiered.Proofs.Files.Alike
import Tiered.Proofs.Files.Tree
import Tiered.Proofs.Json.Regular
import Tiered.Proofs.Store.Loading
import Tiered.Proofs.Value.Alike

/-!
# Alike — the two files on disks that nothing that is told tells apart

Two disks are alike to a session if they differ in the values of its two files only: where the path
of the environment file leads, in the variables of the environments, and where that of the snapshot
file leads, in the entries (`DisksAlike`).  What a snapshot file keeps of tables that are alike is
read back alike.  So loading and saving tell the same and leave such disks, as long as the two paths
do not lead to one file (`DisksAlike.loadEnvironment`, `DisksAlike.loadSnapshot`,
`DisksAlike.saveSnapshot`).
-/

namespace Tiered

open Files
open Text.Utf8 (Octets)

namespace Store

/-! ### Contents -/

/-- The octets are read as a table. -/
def Holds (octets : Octets) (es : Entries) : Prop :=
  ∃ cs, textOf octets = .ok cs ∧ Json.read cs = .ok (.table es)

/-- The octets are the same, or are read as tables of which a relation holds. -/
def ReadAlike (P : Entries → Entries → Prop) (c c' : Octets) : Prop :=
  c = c' ∨ ∃ es es', Holds c es ∧ Holds c' es' ∧ P es es'

/-- Environments are alike as tables of variables; what is no table is the same. -/
inductive VariablesAlike : Value → Value → Prop where
  | table {es es' : Entries} (h : es.Alike es') : VariablesAlike (.table es) (.table es')
  | other {v : Value} (h : ∀ es, v ≠ .table es) : VariablesAlike v v

/-- The same environments are named, and they are alike. -/
def EnvironmentsAlike (es es' : Entries) : Prop :=
  List.Forall₂ (fun e e' => e.1 = e'.1 ∧ VariablesAlike e.2 e'.2) es es'

/-- The contents of a file at a location, to a session with these two paths. -/
def ContentsAlike (d : Disk) (environment snapshot : Path) (loc : Location) (c c' : Octets) :
    Prop :=
  c = c' ∨ (d.locate environment.codes = .ok loc ∧ ReadAlike EnvironmentsAlike c c') ∨
    (d.locate snapshot.codes = .ok loc ∧ ReadAlike Entries.Alike c c')

/-- The disks differ in the values of the two files only. -/
def DisksAlike (environment snapshot : Path) (d d' : Disk) : Prop :=
  d.Alike (ContentsAlike d environment snapshot) d'

section Contents

variable {d d' t : Disk} {environment snapshot : Path} {c c' : Octets} {es es' : Entries}

/-- Where a disk grows, the paths lead where they led. -/
theorem ContentsAlike.grows (hg : d.Grows t) {loc : Location}
    (h : ContentsAlike d environment snapshot loc c c') :
    ContentsAlike t environment snapshot loc c c' := by
  rcases h with rfl | ⟨hl, h⟩ | ⟨hl, h⟩
  · exact .inl rfl
  · exact .inr (.inl ⟨Disk.locate_grows hg hl, h⟩)
  · exact .inr (.inr ⟨Disk.locate_grows hg hl, h⟩)

theorem EnvironmentsAlike.refl (h : es.Regular) : EnvironmentsAlike es es := by
  refine List.forall₂_same.2 fun e he => ⟨rfl, ?_⟩
  have hsound := (h.values e he).sound
  cases hv : e.2
  case table entries =>
    rw [hv] at hsound
    exact .table (.refl fun f hf => (Value.soundEntries_iff.1 hsound.2 f hf).2)
  all_goals exact .other (by simp)

theorem EnvironmentsAlike.selected (h : EnvironmentsAlike es es') (shownAs : Text) (name : Value) :
    Agree Failure.Alike Entries.Alike (selected shownAs name es) (selected shownAs name es') := by
  have hget := Entries.rel_get? h name
  rw [Store.selected.eq_def, Store.selected.eq_def]
  revert hget
  generalize es.get? name = v
  generalize es'.get? name = v'
  rintro (@⟨v, v', hv⟩ | _)
  · rcases hv with hes | hv
    · exact .ok hes
    · cases v
      case table entries => exact absurd rfl (hv entries)
      all_goals exact .error (.refl _)
  · exact .ok .nil

end Contents

/-! ### What is written -/

section Saved

variable {es es' : Entries} {cs cs' : List Char}

/-- What is kept of a table is read as what comes back of it under the texts of its keys. -/
theorem holds_saved (h : snapshotText es.keep = .ok cs) :
    Holds (Text.Utf8.encode cs) (Json.named .indented es.keep).reread :=
  ⟨cs, textOf_snapshotText h, Json.read_write_table ascii_indented
    (fun _ he => (Entries.mem_keep.1 he).2) (snapshotText_eq_ok_iff.1 h)⟩

/-- What is kept of tables that are alike comes back alike under the texts of its keys. -/
theorem alike_reread_named (h : es.Alike es')
    (hes : ∀ e ∈ es.keep, Json.Keyable e.1 ∧ e.2.Spellable) :
    (Json.named .indented es.keep).reread.Alike (Json.named .indented es'.keep).reread := by
  rw [Json.named, Json.named, Entries.reread, Entries.reread, List.map_map, List.map_map]
  refine .putAll .nil (List.forall₂_map_left_iff.2 (List.forall₂_map_right_iff.2 ?_))
  refine ((List.forall₂_and_left _ _).2 ⟨fun _ => id, h.keep⟩).imp ?_
  rintro e e' ⟨he, hk, hv⟩
  exact ⟨by rw [Function.comp, Function.comp, hk],
    hv.reread (Entries.mem_keep.1 he).2 (hes e he).2⟩

/-- **What is kept of tables that are alike is read back alike**, or has a text in neither. -/
theorem agree_snapshotText (h : es.Alike es') :
    Agree Failure.Alike
      (fun cs cs' => ReadAlike Entries.Alike (Text.Utf8.encode cs) (Text.Utf8.encode cs'))
      (snapshotText es.keep) (snapshotText es'.keep) := by
  have hiff := h.keep.writable_iff fun e he => (Entries.mem_keep.1 he).2
  cases ht : snapshotText es.keep with
  | ok cs =>
      have hes := exists_snapshotText_iff.1 ⟨cs, ht⟩
      obtain ⟨cs', ht'⟩ := exists_snapshotText_iff.2 (hiff.1 hes)
      rw [ht']
      exact .ok (.inr ⟨_, _, holds_saved ht, holds_saved ht', alike_reread_named h hes⟩)
  | error failure =>
      cases ht' : snapshotText es'.keep with
      | ok cs' =>
          obtain ⟨cs, hcs⟩ := exists_snapshotText_iff.2
            (hiff.2 (exists_snapshotText_iff.1 ⟨cs', ht'⟩))
          simp [ht] at hcs
      | error failure' =>
          exact .error ((snapshotText_error ht).alike (snapshotText_error ht'))

end Saved

/-! ### Loading and saving -/

theorem parse_eq_ok_iff {f : ObjectFile} {path : Path} {cs : List Char} {es : Entries} :
    f.parse path cs = .ok es ↔ Json.read cs = .ok (.table es) := by
  rw [ObjectFile.parse]
  rcases Json.read cs with refusal | v
  · cases refusal <;> simp
  · cases v <;> simp

/-- Contents that are read alike are parsed alike. -/
theorem ReadAlike.parse {P : Entries → Entries → Prop} {c c' : Octets} (h : ReadAlike P c c')
    (hP : ∀ es, es.Regular → P es es) (f : ObjectFile) (path : Path) :
    Agree Failure.Alike P ((textOf c).bind (f.parse path)) ((textOf c').bind (f.parse path)) := by
  rcases h with rfl | ⟨es, es', ⟨cs, ht, hj⟩, ⟨cs', ht', hj'⟩, hes⟩
  · refine .refl Failure.Alike.refl fun es hes => ?_
    obtain ⟨cs, -, hp⟩ := bind_eq_ok_iff.1 hes
    exact hP es (Json.regular_of_read (parse_eq_ok_iff.1 hp))
  · rw [ht, ht']
    simp only [Except.bind, parse_eq_ok_iff.2 hj, parse_eq_ok_iff.2 hj']
    exact .ok hes

/-- What loading a snapshot comes to where the octets of the file are given. -/
def loadedFrom (path : Path) (octets : Octets) (d : Disk) : Outcome Disk Entries :=
  match textOf octets with
  | .error failure => ⟨.error failure, d, []⟩
  | .ok cs => if Text.allBlank cs then ⟨.ok [], d, []⟩
    else match snapshotFile.parse path cs with
      | .error failure => ⟨.error failure, d, []⟩
      | .ok es => ⟨.ok es, d, [.snapshotLoaded path.text es.length]⟩

/-- A table is loaded as it is read, for a blank text is no table. -/
theorem Holds.loaded {c : Octets} {es : Entries} (h : Holds c es) (path : Path) (d : Disk) :
    loadedFrom path c d = ⟨.ok es, d, [.snapshotLoaded path.text es.length]⟩ := by
  obtain ⟨cs, ht, hj⟩ := h
  have hblank : Text.allBlank cs ≠ true := fun hb => by
    obtain ⟨rest, hd⟩ := Json.document_of_allBlank hb
    simp [Json.read, hd] at hj
  rw [loadedFrom, ht]
  simp only [if_neg hblank, parse_eq_ok_iff.2 hj]

/-- Contents that are read alike are loaded alike. -/
theorem ReadAlike.loaded {c c' : Octets} (h : ReadAlike Entries.Alike c c') (path : Path)
    {R : Disk → Disk → Prop} {d d' : Disk} (hR : R d d') :
    (loadedFrom path c d).Alike R Entries.Alike (loadedFrom path c' d') := by
  rcases h with rfl | ⟨es, es', hes, hes', halike⟩
  · rw [loadedFrom, loadedFrom]
    rcases textOf c with failure | cs
    · exact ⟨rfl, hR, .error (.refl _)⟩
    dsimp only
    split_ifs
    · exact ⟨rfl, hR, .ok .nil⟩
    cases hp : snapshotFile.parse path cs with
    | error failure => exact ⟨rfl, hR, .error (.refl _)⟩
    | ok es =>
        have hregular := Json.regular_of_read (parse_eq_ok_iff.1 hp)
        exact ⟨rfl, hR, .ok (.refl fun e he => (hregular.values e he).sound)⟩
  · rw [hes.loaded, hes'.loaded]
    exact ⟨by rw [halike.length], hR, .ok halike⟩

theorem skipReports_eq {es es' : Entries} (h : es.Alike es') :
    skipReports es = skipReports es' := by
  have hreports : List.Forall₂ (· = ·) (skipReports es) (skipReports es') := by
    refine List.forall₂_map_left_iff.2 (List.forall₂_map_right_iff.2 (h.skipped.imp ?_))
    rintro e e' ⟨hk, hv⟩
    rw [hk, hv.kind]
  rwa [List.forall₂_eq_eq_eq] at hreports

/-- The two paths do not lead to one place. -/
def Apart (environment snapshot : Path) (d : Disk) : Prop :=
  ∀ loc, d.locate environment.codes = .ok loc → d.locate snapshot.codes ≠ .ok loc

/-- Paths that are apart where more is there were apart before. -/
theorem Apart.of_grows {environment snapshot : Path} {d t : Disk}
    (h : Apart environment snapshot t) (hg : d.Grows t) : Apart environment snapshot d :=
  fun loc he hs => h loc (Disk.locate_grows hg he) (Disk.locate_grows hg hs)

namespace DisksAlike

variable {d d' t : Disk} {environment snapshot : Path} (h : DisksAlike environment snapshot d d')
include h

theorem grows (hg : d.Grows t) : d.Alike (ContentsAlike t environment snapshot) d' :=
  Disk.Alike.mono h fun _ _ _ hc => hc.grows hg

theorem makeFolders (p : Path) :
    DisksAlike environment snapshot (d.makeFolders p).1 (d'.makeFolders p).1 ∧
      (d'.makeFolders p).2 = (d.makeFolders p).2 :=
  (h.grows (Disk.makesWay_makeFolders d p).grows).makeFolders p

/-- What is written leaves the disks alike if the contents are, where the path leads by then. -/
theorem writeFile {path : Path} {c c' : Octets}
    (hc : ∀ t loc, t.locate path.codes = .ok loc → ContentsAlike t environment snapshot loc c c') :
    Agree Eq (DisksAlike environment snapshot) (d.writeFile path.text c)
      (d'.writeFile path.text c') := by
  cases hw : d.writeFile path.text c with
  | error fault =>
      have hwrite : Agree Eq (Disk.Alike fun _ _ _ => True) (d.writeFile path.text c)
          (d'.writeFile path.text c') :=
        Disk.Alike.writeFile (Disk.Alike.mono h fun _ _ _ _ => trivial) fun _ _ => trivial
      rw [hw] at hwrite
      obtain ⟨fault', hw', rfl⟩ := hwrite.of_error
      rw [hw']
      exact .error rfl
  | ok t =>
      have hwrite : Agree Eq (Disk.Alike (ContentsAlike t environment snapshot))
          (d.writeFile path.text c) (d'.writeFile path.text c') :=
        (h.grows (Disk.writeFile_grows hw)).writeFile fun loc hl =>
          hc t loc (Disk.locate_written hw hl)
      rw [hw] at hwrite
      obtain ⟨t', hw', ht⟩ := hwrite.of_ok
      rw [hw']
      exact .ok ht

/-! #### The environment file -/

/-- The environment file is read alike, as long as it is not the snapshot file. -/
theorem readFile_environment (hapart : Apart environment snapshot d) :
    Agree Eq (ReadAlike EnvironmentsAlike) (d.readFile environment.text)
      (d'.readFile environment.text) := by
  refine (Disk.Alike.readFile h environment.text).mono ?_
  rintro c c' ⟨loc, hl, rfl | ⟨-, hc⟩ | ⟨hl', -⟩⟩
  · exact .inl rfl
  · exact hc
  · exact absurd hl' (hapart loc hl)

theorem createEnvironments (path : Path) :
    (createEnvironments path d).Alike (DisksAlike environment snapshot) Eq
      (createEnvironments path d') := by
  have hmade := h.makeFolders path.parent
  rw [createEnvironments_eq, createEnvironments_eq]
  revert hmade
  rcases d.makeFolders path.parent with ⟨made, fault⟩
  rcases d'.makeFolders path.parent with ⟨made', fault'⟩
  rintro ⟨hmade, rfl⟩
  cases fault' with
  | some fault => exact ⟨rfl, hmade, .error (.refl _)⟩
  | none =>
      have hwritten : Agree Eq (DisksAlike environment snapshot)
          (made.writeFile path.text (Text.Utf8.encode emptyObject))
          (made'.writeFile path.text (Text.Utf8.encode emptyObject)) :=
        hmade.writeFile fun _ _ _ => .inl rfl
      revert hwritten
      dsimp only
      generalize made.writeFile path.text (Text.Utf8.encode emptyObject) = x
      generalize made'.writeFile path.text (Text.Utf8.encode emptyObject) = x'
      rintro (ht | rfl)
      · exact ⟨rfl, ht, .ok rfl⟩
      · exact ⟨rfl, hmade, .error (.refl _)⟩

theorem readEnvironments (hapart : Apart environment snapshot d) (createMissing : Bool) :
    (readEnvironments environment createMissing d).Alike (DisksAlike environment snapshot)
      EnvironmentsAlike (readEnvironments environment createMissing d') := by
  have hread := h.readFile_environment hapart
  rw [readEnvironments_eq, readEnvironments_eq, Disk.Alike.exists? h]
  rcases d.exists? environment.text with fault | found
  · exact ⟨rfl, h, .error (.refl _)⟩
  cases found with
  | true =>
      revert hread
      dsimp only
      generalize d.readFile environment.text = x
      generalize d'.readFile environment.text = x'
      rintro (hc | rfl)
      · exact ⟨rfl, h, hc.parse (fun _ => .refl) environmentFile environment⟩
      · exact ⟨rfl, h, .error (.refl _)⟩
  | false =>
      dsimp only
      split_ifs
      · obtain ⟨hevents, hstate, hresult⟩ := h.createEnvironments environment
        exact ⟨hevents, hstate, hresult.map fun _ _ _ => .nil⟩
      · exact ⟨rfl, h, .ok .nil⟩

/-! #### The snapshot file -/

/-- The snapshot file is read alike, as long as it is not the environment file. -/
theorem readFile_snapshot (hapart : Apart environment snapshot d) :
    Agree Eq (ReadAlike Entries.Alike) (d.readFile snapshot.text) (d'.readFile snapshot.text) := by
  refine (Disk.Alike.readFile h snapshot.text).mono ?_
  rintro c c' ⟨loc, hl, rfl | ⟨hl', -⟩ | ⟨-, hc⟩⟩
  · exact .inl rfl
  · exact absurd hl (hapart loc hl')
  · exact hc

/-- **Loading the snapshot tells the same.** -/
theorem loadSnapshot (hapart : Apart environment snapshot d) :
    (loadSnapshot snapshot d).Alike (DisksAlike environment snapshot) Entries.Alike
      (loadSnapshot snapshot d') := by
  have hread := h.readFile_snapshot hapart
  rw [loadSnapshot_eq, loadSnapshot_eq, Disk.Alike.exists? h]
  rcases d.exists? snapshot.text with fault | found
  · exact ⟨rfl, h, .error (.refl _)⟩
  cases found with
  | false => exact ⟨rfl, h, .ok .nil⟩
  | true =>
      revert hread
      dsimp only
      generalize d.readFile snapshot.text = x
      generalize d'.readFile snapshot.text = x'
      rintro (hc | rfl)
      · exact hc.loaded snapshot h
      · exact ⟨rfl, h, .error (.refl _)⟩

/-- **Saving tells the same.** -/
theorem saveSnapshot {es es' : Entries} (hes : es.Alike es') :
    (saveSnapshot snapshot es d).Alike (DisksAlike environment snapshot) Entries.Alike
      (saveSnapshot snapshot es' d') := by
  have hreports : skipReports es = skipReports es' := skipReports_eq hes
  have hmade := h.makeFolders snapshot.parent
  rw [saveSnapshot_eq, saveSnapshot_eq]
  revert hmade
  rcases d.makeFolders snapshot.parent with ⟨made, fault⟩
  rcases d'.makeFolders snapshot.parent with ⟨made', fault'⟩
  rintro ⟨hmade, rfl⟩
  cases fault' with
  | some fault => exact ⟨hreports, hmade, .error (.refl _)⟩
  | none =>
      have htext := agree_snapshotText hes
      revert htext
      dsimp only
      generalize snapshotText es.keep = x
      generalize snapshotText es'.keep = x'
      rintro (@⟨cs, cs', hcs⟩ | hf)
      · have hwritten : Agree Eq (DisksAlike environment snapshot)
            (made.writeFile snapshot.text (Text.Utf8.encode cs))
            (made'.writeFile snapshot.text (Text.Utf8.encode cs')) :=
          hmade.writeFile fun _ _ hl => .inr (.inr ⟨hl, hcs⟩)
        revert hwritten
        dsimp only
        generalize made.writeFile snapshot.text (Text.Utf8.encode cs) = y
        generalize made'.writeFile snapshot.text (Text.Utf8.encode cs') = y'
        rintro (ht | rfl)
        · exact ⟨by rw [hreports, hes.keep.length], ht, .ok hes.keep⟩
        · exact ⟨hreports, hmade, .error (.refl _)⟩
      · exact ⟨hreports, hmade, .error hf⟩

end DisksAlike

/-- **Loading an environment tells the same.** -/
theorem DisksAlike.loadEnvironment {shownAs : Text} {snapshot : Path} {d d' : Disk}
    (h : DisksAlike (.ofText shownAs) snapshot d d') (hapart : Apart (.ofText shownAs) snapshot d)
    (name : Text) (createMissing : Bool) :
    (loadEnvironment shownAs (.text name) createMissing d).Alike
      (DisksAlike (.ofText shownAs) snapshot) Entries.Alike
      (loadEnvironment shownAs (.text name) createMissing d') := by
  obtain ⟨hevents, hstate, hresult⟩ := h.readEnvironments hapart createMissing
  have hselected := hresult.bind fun es es' hes => hes.selected shownAs (.text name)
  rw [loadEnvironment_eq, loadEnvironment_eq]
  revert hselected
  dsimp only
  generalize (Store.readEnvironments (.ofText shownAs) createMissing d).result.bind
    (selected shownAs (.text name)) = x
  generalize (Store.readEnvironments (.ofText shownAs) createMissing d').result.bind
    (selected shownAs (.text name)) = x'
  rintro (hes | hf)
  · refine ⟨?_, hstate, .ok hes⟩
    exact congrArg₂ (fun events n => events ++ [.environmentLoaded shownAs (.text name) n]) hevents
      hes.length
  · exact ⟨hevents, hstate, .error hf⟩

end Store

end Tiered
