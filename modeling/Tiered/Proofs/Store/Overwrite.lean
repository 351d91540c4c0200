import Mathlib
import Tiered.Proofs.Files.Tree
import Tiered.Proofs.Store.Arrival

/-!
# Overwrite — the file that making an environment file replaces

Where an environment file is missing, folders are made on the way to its path before it is written.
A path with double points can name nothing before that and a file behind it: that file is replaced
by an empty environment file (`Overwrites`).  No other file is touched, and no other is new
(`makesFile_loadEnvironment`).  Nothing is replaced where the path has no double points, or where
the folder of the file is there (`not_overwrites_of_direct`, `not_overwrites_of_folder`).  In the
same way a snapshot can come to light that nothing led to before (`Uncovers`).
-/

namespace Tiered

open Files

/-- Every file keeps its content. -/
def Files.Disk.KeepsFiles (d d' : Disk) : Prop :=
  ∀ loc octets, d.node? loc = some (.file octets) → d'.node? loc = some (.file octets)

namespace Store

variable {path : Path} {createMissing : Bool} {d d' : Disk} {loc : Location}

/-- A missing environment file is made at a location: nothing is found at its path, and behind the
folders that are made on the way the path leads there. -/
structure MakesAt (path : Path) (createMissing : Bool) (d : Disk) (loc : Location) : Prop where
  wanted : createMissing = true
  missing : d.exists? path.text = .ok false
  nameable : Nameable path.text
  leads : ∃ made, d.makeFolders path.parent = (made, none) ∧ made.writable path.codes = .ok loc

/-- Making a missing environment file replaces a file that holds something else. -/
def Overwrites (path : Path) (createMissing : Bool) (d : Disk) : Prop :=
  ∃ loc octets, MakesAt path createMissing d loc ∧ d.node? loc = some (.file octets) ∧
    octets ≠ Text.Utf8.encode emptyObject

/-- What becomes of the files of a disk where an environment file is made if it is missing. -/
structure MakesFile (path : Path) (createMissing : Bool) (d d' : Disk) : Prop where
  /-- A file at another location keeps its content. -/
  kept : ∀ loc octets, d.node? loc = some (.file octets) → ¬ MakesAt path createMissing d loc →
    d'.node? loc = some (.file octets)
  /-- The file that was made is empty, and is what the path names. -/
  made : ∀ loc, MakesAt path createMissing d loc →
    d'.node? loc = some (.file (Text.Utf8.encode emptyObject)) ∧ d'.locate path.codes = .ok loc
  /-- No other file is new. -/
  added : ∀ loc octets, d'.node? loc = some (.file octets) →
    d.node? loc = some (.file octets) ∨ MakesAt path createMissing d loc

/-- **Every file keeps its content exactly where none is replaced.** -/
theorem MakesFile.keepsFiles_iff (h : MakesFile path createMissing d d') :
    d.KeepsFiles d' ↔ ¬ Overwrites path createMissing d := by
  constructor
  · rintro hkeeps ⟨loc, octets, hmakes, hn, hne⟩
    have hsame := (hkeeps loc octets hn).symm.trans (h.made loc hmakes).1
    exact hne (Node.file.inj (Option.some.inj hsame))
  · intro hno loc octets hn
    by_cases hmakes : MakesAt path createMissing d loc
    · by_cases he : octets = Text.Utf8.encode emptyObject
      · rw [he]
        exact (h.made loc hmakes).1
      · exact absurd ⟨loc, octets, hmakes, hn, he⟩ hno
    · exact h.kept loc octets hn hmakes

/-- A file is either one that was there or the new one, which the path names. -/
theorem MakesFile.file (h : MakesFile path createMissing d d') {octets : Text.Utf8.Octets}
    (hn : d'.node? loc = some (.file octets)) :
    d.node? loc = some (.file octets) ∨
      octets = Text.Utf8.encode emptyObject ∧ d'.locate path.codes = .ok loc := by
  rcases h.added loc octets hn with hold | hmakes
  · exact .inl hold
  · obtain ⟨hempty, hl⟩ := h.made loc hmakes
    exact .inr ⟨Node.file.inj (Option.some.inj (hn.symm.trans hempty)), hl⟩

/-- Where no file is to be made, the disk stays. -/
theorem makesFile_refl (h : ¬ (createMissing = true ∧ d.exists? path.text = .ok false)) :
    MakesFile path createMissing d d where
  kept _ _ hn _ := hn
  made _ hmakes := absurd ⟨hmakes.wanted, hmakes.missing⟩ h
  added _ _ hn := .inl hn

/-- Where only folders are new, every file is an old one. -/
theorem node_of_addsFolders (h : d.AddsFolders d') {octets : Text.Utf8.Octets}
    (hn : d'.node? loc = some (.file octets)) : d.node? loc = some (.file octets) := by
  rcases h.node loc with he | ⟨-, hfolder⟩
  · exact he ▸ hn
  · rw [hfolder] at hn
    exact absurd hn (by simp)

/-- Where only folders are made, every file stays as it is. -/
theorem makesFile_of_addsFolders (h : d.AddsFolders d')
    (hnone : ∀ loc, ¬ MakesAt path createMissing d loc) : MakesFile path createMissing d d' where
  kept _ _ hn _ := h.node_of_some hn
  made loc hmakes := absurd hmakes (hnone loc)
  added _ _ hn := .inl (node_of_addsFolders h hn)

/-- Where the folders on the way are made, a file is made where the path can be written. -/
theorem makesAt_iff {made : Disk} (hm : d.makeFolders path.parent = (made, none)) :
    MakesAt path true d loc ↔ d.exists? path.text = .ok false ∧ Nameable path.text ∧
      made.writable path.codes = .ok loc := by
  constructor
  · intro hmakes
    obtain ⟨made', hm', hl⟩ := hmakes.leads
    obtain rfl : made = made' := congrArg Prod.fst (hm.symm.trans hm')
    exact ⟨hmakes.missing, hmakes.nameable, hl⟩
  · rintro ⟨he, hnameable, hl⟩
    exact ⟨rfl, he, hnameable, made, hm, hl⟩

/-- What is written is the file that is made. -/
theorem makesFile_written {made : Disk} (hway : d.MakesWay made path.parent)
    (hm : d.makeFolders path.parent = (made, none)) (he : d.exists? path.text = .ok false)
    {written : Disk} (hw : made.writeFile path.text (Text.Utf8.encode emptyObject) = .ok written) :
    MakesFile path true d written := by
  obtain ⟨hnameable, target, hl, rfl⟩ := Disk.writeFile_eq_ok_iff.1 hw
  obtain ⟨folder, name, rfl, hnew, hfree⟩ := Disk.writable_eq_ok_iff.1 hl
  have hput := Disk.node?_put made (Disk.ne_root_of_not_folder hfree)
    (.file (Text.Utf8.encode emptyObject))
  have hmakes : MakesAt path true d (folder ++ [name]) := (makesAt_iff hm).2 ⟨he, hnameable, hl⟩
  refine ⟨fun loc octets hn hnot => ?_, fun loc hat => ?_, fun loc octets hn => ?_⟩
  · rw [hput, if_neg fun h : loc = folder ++ [name] => hnot (h ▸ hmakes)]
    exact hway.node_of_some hn
  · obtain rfl : loc = folder ++ [name] :=
      Except.ok.inj (((makesAt_iff hm).1 hat).2.2.symm.trans hl)
    exact ⟨Disk.node?_put_self hfree _, Disk.locate_put hnew hfree _⟩
  · rw [hput] at hn
    split_ifs at hn with h
    · exact .inr (h ▸ hmakes)
    · exact .inl (node_of_addsFolders hway.toAddsFolders hn)

/-- **Making a missing environment file replaces what is at the location where it is made.** -/
theorem makesFile_createEnvironments (he : d.exists? path.text = .ok false) :
    MakesFile path true d (createEnvironments path d).state := by
  have hway := Disk.makesWay_makeFolders d path.parent
  rw [createEnvironments_eq]
  rcases hm : d.makeFolders path.parent with ⟨made, _ | fault⟩
  · rw [hm] at hway
    dsimp only
    cases hw : made.writeFile path.text (Text.Utf8.encode emptyObject) with
    | ok written => exact makesFile_written hway hm he hw
    | error fault =>
        -- where a file was made, it would have been written
        refine makesFile_of_addsFolders hway.toAddsFolders fun loc hmakes => ?_
        obtain ⟨-, hnameable, hl⟩ := (makesAt_iff hm).1 hmakes
        have hok : made.writeFile path.text (Text.Utf8.encode emptyObject) =
            .ok (made.put loc (.file (Text.Utf8.encode emptyObject))) :=
          Disk.writeFile_eq_ok_iff.2 ⟨hnameable, loc, hl, rfl⟩
        exact absurd (hw.symm.trans hok) (by simp)
  · rw [hm] at hway
    refine makesFile_of_addsFolders hway.toAddsFolders fun loc hmakes => ?_
    obtain ⟨made', hm', -⟩ := hmakes.leads
    exact absurd (congrArg Prod.snd (hm.symm.trans hm')) (by simp)

/-- **Reading the named environments makes a missing file, or leaves the disk.** -/
theorem makesFile_readEnvironments (path : Path) (createMissing : Bool) (d : Disk) :
    MakesFile path createMissing d (readEnvironments path createMissing d).state := by
  by_cases h : createMissing = true ∧ d.exists? path.text = .ok false
  · obtain ⟨rfl, he⟩ := h
    rw [readEnvironments_eq, he]
    exact makesFile_createEnvironments he
  · rcases readEnvironments_receives path createMissing d with hsame | ⟨hwanted, hmissing, -⟩
    · rw [hsame]
      exact makesFile_refl h
    · exact absurd ⟨hwanted, hmissing⟩ h

theorem makesFile_loadEnvironment (shownAs name : Text) (createMissing : Bool) (d : Disk) :
    MakesFile (.ofText shownAs) createMissing d
      (loadEnvironment shownAs (.text name) createMissing d).state := by
  rw [loadEnvironment_state]
  exact makesFile_readEnvironments _ createMissing d

/-! ### Where nothing is replaced -/

/-- Nothing is where a missing file is made, unless a folder had to come first. -/
theorem MakesAt.node_of_folder (h : MakesAt path createMissing d loc) (hp : path.WellFormed)
    (hf : d.isFolder? path.parent.text = .ok true) : d.node? loc = none := by
  obtain ⟨made, hm, hl⟩ := h.leads
  have hlook : d.look path.parent.codes = .ok .folder := by
    obtain ⟨node, hfind, hnode⟩ := map_eq_ok_iff.1 hf
    rw [beq_iff_eq] at hnode
    exact Disk.look_of_find (hnode ▸ hfind)
  rw [Disk.makeFolders_of_folder (Path.nameable_parent hp h.nameable) hlook] at hm
  obtain rfl : d = made := congrArg Prod.fst hm
  obtain ⟨folder, name, rfl, hnew, -⟩ := Disk.writable_eq_ok_iff.1 hl
  by_contra hsome
  obtain ⟨node, hnode⟩ := Option.ne_none_iff_exists'.1 hsome
  -- what is there would have been found
  have hfound := Disk.find_of_look h.nameable (Disk.look_eq_ok_iff.2
    ⟨_, Disk.locate_of_locateNew hnew (by rw [hnode]; rfl), hnode⟩)
  have hmissing := h.missing
  rw [Disk.exists?, hfound] at hmissing
  exact absurd (Except.ok.inj hmissing) (by simp)

/-- Nothing is where a missing file is made at a path without double points. -/
theorem MakesAt.node_of_direct (h : MakesAt path createMissing d loc) (ht : d.Tree)
    (hp : path.Direct) : d.node? loc = none := by
  obtain ⟨made, hm, hl⟩ := h.leads
  have hhere := (Disk.makesWay_makeFolders d path.parent).here
  rw [hm] at hhere
  obtain ⟨folder, name, rfl, hnew, -⟩ := Disk.writable_eq_ok_iff.1 hl
  obtain ⟨hloc, -, -⟩ := Disk.start_location hp hnew
  obtain ⟨node, hfind, hnode⟩ := map_eq_ok_iff.1 h.missing
  rw [Option.isSome_eq_false_iff, Option.isNone_iff_eq_none] at hnode
  rw [← hloc, Disk.location, Disk.base, hhere, ← Disk.base, ← Disk.location,
    ← ht.find_eq hp hfind, hnode]

theorem not_overwrites_of_folder (hp : path.WellFormed)
    (hf : d.isFolder? path.parent.text = .ok true) : ¬ Overwrites path createMissing d := by
  rintro ⟨loc, octets, hmakes, hn, -⟩
  rw [hmakes.node_of_folder hp hf] at hn
  exact absurd hn (by simp)

theorem not_overwrites_of_direct (ht : d.Tree) (hp : path.Direct) :
    ¬ Overwrites path createMissing d := by
  rintro ⟨loc, octets, hmakes, hn, -⟩
  rw [hmakes.node_of_direct ht hp] at hn
  exact absurd hn (by simp)

/-! ### What is read where every file is kept -/

/-- A file that is found is read as before. -/
theorem readFile_of_keepsFiles (hg : d.Grows d') (hk : d.KeepsFiles d') {p : Text}
    (he : d.exists? p = .ok true) : d'.readFile p = d.readFile p := by
  have hn := Disk.nameable_of_exists? he
  obtain ⟨node?, hfind, hsome⟩ := map_eq_ok_iff.1 he
  obtain ⟨node, rfl⟩ := Option.isSome_iff_exists.1 hsome
  have hlook := Disk.look_of_find hfind
  obtain ⟨loc, hl, hnode⟩ := Disk.look_eq_ok_iff.1 hlook
  have hnode' : d'.node? loc = some node := by
    cases node with
    | folder => exact Disk.isFolderAt_iff.1 (hg.folder loc (Disk.isFolderAt_iff.2 hnode))
    | file octets => exact hk loc octets hnode
  have hlook' : d'.look p.codes = .ok node :=
    Disk.look_eq_ok_iff.2 ⟨loc, Disk.locate_grows hg hl, hnode'⟩
  rw [Disk.readFile, Disk.readFile, Disk.guarded_of_nameable hn, Disk.guarded_of_nameable hn,
    hlook, hlook']

/-- **A snapshot that is found is loaded as before.** -/
theorem loadSnapshot_of_keepsFiles (hg : d.Grows d') (hk : d.KeepsFiles d')
    (he : d.exists? path.text = .ok true) :
    (loadSnapshot path d').result = (loadSnapshot path d).result := by
  rw [loadSnapshot_eq, loadSnapshot_eq, Disk.exists?_grows hg he, he,
    readFile_of_keepsFiles hg hk he]
  rcases d.readFile path.text with fault | octets
  · rfl
  dsimp only
  rcases textOf octets with failure | cs
  · rfl
  dsimp only
  split_ifs
  · rfl
  · cases snapshotFile.parse path cs <;> rfl

/-- A path that leads nowhere comes to lead to a file that was there. -/
structure Uncovers (path : Path) (d d' : Disk) : Prop where
  missing : d.exists? path.text = .ok false
  leads : ∃ loc octets, d'.locate path.codes = .ok loc ∧ d.node? loc = some (.file octets)

/-- No file comes to light at a path without double points. -/
theorem not_uncovers_of_direct (ht : d.Tree) (hp : path.Direct) (hhere : d'.here = d.here) :
    ¬ Uncovers path d d' := by
  rintro ⟨hmissing, loc, octets, hl, hn⟩
  obtain ⟨node, hfind, hnode⟩ := map_eq_ok_iff.1 hmissing
  rw [Option.isSome_eq_false_iff, Option.isNone_iff_eq_none] at hnode
  have hlocation : loc = d.location path := by
    rw [Disk.locate_location hp hl, Disk.location, Disk.location, Disk.base, Disk.base, hhere]
  rw [hlocation, ← ht.find_eq hp hfind, hnode] at hn
  exact absurd hn (by simp)

/-- **A snapshot that is missing has no entries where only an empty environment file is new and no
file has come to light.** -/
theorem loadSnapshot_of_missing {p : Path} {es : Entries} (h : MakesFile path createMissing d d')
    (he : d.exists? p.text = .ok false) (hu : ¬ Uncovers p d d')
    (hl : (loadSnapshot p d').result = .ok es) : es = [] := by
  rw [loadSnapshot_eq] at hl
  rcases he' : d'.exists? p.text with fault | found
  · simp [he'] at hl
  cases found with
  | false =>
      rw [he'] at hl
      exact (Except.ok.inj hl).symm
  | true =>
      rcases hr : d'.readFile p.text with fault | octets
      · simp [he', hr] at hl
      obtain ⟨loc, hlocate, hnode⟩ := Disk.look_eq_ok_iff.1 (Disk.look_of_readFile hr)
      -- the file is new, and so it is the environment file
      obtain ⟨rfl, -⟩ := (h.file hnode).resolve_left fun hold => hu ⟨he, loc, octets, hlocate, hold⟩
      have htext : textOf (Text.Utf8.encode emptyObject) = .ok emptyObject := rfl
      have hparse : snapshotFile.parse p emptyObject = .ok [] := rfl
      have hblank : Text.allBlank emptyObject = false := rfl
      simp only [he', hr, htext, hparse, hblank, Bool.false_eq_true, if_false] at hl
      exact (Except.ok.inj hl).symm

end Store

end Tiered
