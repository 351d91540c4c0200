import Mathlib
import Tiered.Proofs.Files.Growth
import Tiered.Proofs.Files.Steps

/-!
# Write — files that are read as they were written

A path admits a file when the folders above it can be made and a file can be written there
(`Admits`).  Then what was written is found and read (`readFile_written`), the folder is there
(`makeFolders_written`), and writing the same again changes nothing (`writeFile_written`).
-/

namespace Tiered.Files.Disk

/-! ### Guarded operations -/

section Guarded

variable {α : Type} {path : Text} {act : List Code → Except Cause α}

theorem guarded_of_nameable (h : Nameable path) :
    guarded path act = match act path.codes with
      | .ok a => .ok a
      | .error cause => .error (.refused cause path) := by
  cases hact : act path.codes <;> simp [guarded, h.gap, h.null, hact]

theorem guarded_eq_ok_iff {a : α} :
    guarded path act = .ok a ↔ Nameable path ∧ act path.codes = .ok a := by
  constructor
  · intro h
    have hn : Nameable path := by
      rw [guarded] at h
      split at h
      · exact absurd h (by simp)
      · next hg =>
        split_ifs at h with h₀
        exact ⟨hg, by simpa using h₀⟩
    rw [guarded_of_nameable hn] at h
    split at h
    · next ha => exact ⟨hn, ha.trans (congrArg _ (Except.ok.inj h))⟩
    · exact absurd h (by simp)
  · rintro ⟨hn, ha⟩
    rw [guarded_of_nameable hn, ha]

end Guarded

/-! ### Finding -/

theorem look_eq_ok_iff {d : Disk} {us : List Code} {node : Node} :
    d.look us = .ok node ↔ ∃ loc, d.locate us = .ok loc ∧ d.node? loc = some node := by
  rw [look, bind_eq_ok_iff]
  refine exists_congr fun loc => and_congr_right fun _ => ?_
  cases d.node? loc <;> simp

theorem find_of_look {d : Disk} {path : Text} {node : Node} (hn : Nameable path)
    (h : d.look path.codes = .ok node) : d.find path = .ok (some node) := by
  rw [find, guarded_eq_ok_iff.2 ⟨hn, h⟩]

theorem look_of_readFile {d : Disk} {path : Text} {octets : Text.Utf8.Octets}
    (h : d.readFile path = .ok octets) : d.look path.codes = .ok (.file octets) := by
  obtain ⟨-, h⟩ := guarded_eq_ok_iff.1 h
  obtain ⟨node, hl, hnode⟩ := bind_eq_ok_iff.1 h
  rw [hl]
  cases node with
  | folder => exact absurd hnode (by simp)
  | file read => rw [Except.ok.inj hnode]

theorem exists?_of_readFile {d : Disk} {path : Text} {octets : Text.Utf8.Octets}
    (h : d.readFile path = .ok octets) : d.exists? path = .ok true := by
  obtain ⟨hn, h⟩ := guarded_eq_ok_iff.1 h
  obtain ⟨node, hl, -⟩ := bind_eq_ok_iff.1 h
  rw [exists?, find_of_look hn hl]
  rfl

/-! ### Making a folder that is there -/

/-- What is there leaves no room for a new folder. -/
theorem free_of_look {d : Disk} {us : List Code} {node : Node} (h : d.look us = .ok node) :
    d.free us = .error .exists := by
  obtain ⟨loc, hl, hnode⟩ := look_eq_ok_iff.1 h
  obtain ⟨he, hs, hw⟩ := locate_eq_ok_iff.1 hl
  rw [free, locateNew, if_neg (by simpa using he), if_neg (Nat.not_le.2 hs)]
  cases hr : (stepsOf us).reverse with
  | nil => rfl
  | cons name before =>
      have hsteps : stepsOf us = before.reverse ++ [name] := by
        rw [← List.reverse_reverse (stepsOf us), hr, List.reverse_cons]
      rw [hsteps, walk_append] at hw
      obtain ⟨folder, hwalk, hstep⟩ := bind_eq_ok_iff.1 hw
      rw [walk_singleton, step_eq_ok_iff] at hstep
      obtain ⟨hf, hstep⟩ := hstep
      dsimp only
      rw [hwalk]
      rcases hstep with ⟨hp, -⟩ | ⟨hp, -⟩ | ⟨hp, hpp, hsize, ht, -⟩
      · simp [Except.bind, hf, hp]
      · simp [Except.bind, hf, hp]
      · simp only [Except.bind, hf, Bool.not_true, Bool.false_eq_true, if_false, hp, hpp, or_self,
          Nat.not_lt.2 hsize, ht, if_true]

/-- Making a folder that is there changes nothing. -/
theorem makeFolders_of_folder {d : Disk} {p : Path} (hn : Nameable p.text)
    (h : d.look p.codes = .ok .folder) : d.makeFolders p = (d, none) := by
  have hmake : d.makeFolder p.text = .error (.refused .exists p.text) := by
    rw [makeFolder, guarded_of_nameable hn]
    simp only [Path.text, free_of_look h]
    rfl
  have hfolder : d.isFolder? p.text = .ok true := by
    rw [isFolder?, find_of_look hn h]
    rfl
  rw [makeFolders, hmake]
  simp only [settled, hfolder]

/-! ### Writing -/

theorem writable_eq_ok_iff {d : Disk} {us : List Code} {loc : Location} :
    d.writable us = .ok loc ↔ ∃ folder name, loc = folder ++ [name] ∧
      d.locateNew us = .ok (folder, some name) ∧ d.isFolderAt loc = false := by
  rw [writable, bind_eq_ok_iff]
  constructor
  · rintro ⟨⟨folder, last⟩, hl, h⟩
    cases last with
    | none => exact absurd h (by simp)
    | some name =>
        dsimp only at h
        split_ifs at h with hf
        obtain rfl := Except.ok.inj h
        exact ⟨folder, name, rfl, hl, by simpa using hf⟩
  · rintro ⟨folder, name, rfl, hl, hf⟩
    exact ⟨_, hl, by simp [hf]⟩

theorem writeFile_eq_ok_iff {d d' : Disk} {path : Text} {content : Text.Utf8.Octets} :
    d.writeFile path content = .ok d' ↔ Nameable path ∧
      ∃ loc, d.writable path.codes = .ok loc ∧ d' = d.put loc (.file content) := by
  rw [writeFile, map_eq_ok_iff]
  constructor
  · rintro ⟨loc, hl, rfl⟩
    obtain ⟨hn, hl⟩ := guarded_eq_ok_iff.1 hl
    exact ⟨hn, loc, hl, rfl⟩
  · rintro ⟨hn, loc, hl, rfl⟩
    exact ⟨loc, guarded_eq_ok_iff.2 ⟨hn, hl⟩, rfl⟩

theorem putNode_putNode (es : List (Location × Node)) (loc : Location) (node : Node) :
    putNode (putNode es loc node) loc node = putNode es loc node := by
  induction es with
  | nil => simp [putNode]
  | cons e es ih =>
      rw [putNode]
      split_ifs with he
      · simp [putNode]
      · rw [putNode, if_neg he, ih]

theorem put_put (d : Disk) (loc : Location) (node : Node) :
    (d.put loc node).put loc node = d.put loc node := by
  simp only [put, putNode_putNode]

theorem node?_put_self {d : Disk} {loc : Location} (h : d.isFolderAt loc = false) (node : Node) :
    (d.put loc node).node? loc = some node := by
  rw [node?_put d (ne_root_of_not_folder h), if_pos rfl]

/-- What is there where a new node would be is what the path names. -/
theorem locate_of_locateNew {d : Disk} {us : List Code} {folder : Location} {name : Name}
    (hl : d.locateNew us = .ok (folder, some name))
    (hs : (d.node? (folder ++ [name])).isSome = true) : d.locate us = .ok (folder ++ [name]) := by
  obtain ⟨he, hsize, before, hsteps, hw, hfolder, hp, hpp, hname⟩ := locateNew_eq_ok_iff.1 hl
  refine locate_eq_ok_iff.2 ⟨he, hsize, ?_⟩
  rw [hsteps, walk_append, hw]
  refine (walk_singleton _ _ _).trans (step_eq_ok_iff.2 ⟨hfolder, ?_⟩)
  exact .inr (.inr ⟨hp, hpp, hname, hs, rfl⟩)

/-- **A new node is found where it was put.** -/
theorem locate_put {d : Disk} {us : List Code} {folder : Location} {name : Name}
    (hl : d.locateNew us = .ok (folder, some name)) (hf : d.isFolderAt (folder ++ [name]) = false)
    (node : Node) : (d.put (folder ++ [name]) node).locate us = .ok (folder ++ [name]) := by
  refine locate_of_locateNew (locateNew_grows (grows_put hf node) hl) ?_
  rw [node?_put_self hf node]
  rfl

section Written

variable {d d' : Disk} {path : Text} {content : Text.Utf8.Octets}

theorem writeFile_grows (h : d.writeFile path content = .ok d') : Grows d d' := by
  obtain ⟨-, loc, hw, rfl⟩ := writeFile_eq_ok_iff.1 h
  obtain ⟨folder, name, -, -, hf⟩ := writable_eq_ok_iff.1 hw
  exact grows_put hf _

/-- What was written is where the path led before. -/
theorem locate_written (h : d.writeFile path content = .ok d') {loc : Location}
    (hl : d.writable path.codes = .ok loc) : d'.locate path.codes = .ok loc := by
  obtain ⟨-, loc', hw, rfl⟩ := writeFile_eq_ok_iff.1 h
  obtain rfl : loc = loc' := Except.ok.inj (hl.symm.trans hw)
  obtain ⟨folder, name, rfl, hl, hf⟩ := writable_eq_ok_iff.1 hw
  exact locate_put hl hf _

theorem look_written (h : d.writeFile path content = .ok d') :
    d'.look path.codes = .ok (.file content) := by
  obtain ⟨-, loc, hw, rfl⟩ := writeFile_eq_ok_iff.1 h
  obtain ⟨folder, name, rfl, hl, hf⟩ := writable_eq_ok_iff.1 hw
  exact look_eq_ok_iff.2 ⟨_, locate_put hl hf _, node?_put_self hf _⟩

/-- **What was written is read.** -/
theorem readFile_written (h : d.writeFile path content = .ok d') :
    d'.readFile path = .ok content := by
  obtain ⟨hn, -⟩ := writeFile_eq_ok_iff.1 h
  exact guarded_eq_ok_iff.2 ⟨hn, bind_eq_ok_iff.2 ⟨_, look_written h, rfl⟩⟩

/-- **Writing the same again changes nothing.** -/
theorem writeFile_written (h : d.writeFile path content = .ok d') :
    d'.writeFile path content = .ok d' := by
  have hgrows := writeFile_grows h
  obtain ⟨hn, loc, hw, rfl⟩ := writeFile_eq_ok_iff.1 h
  obtain ⟨folder, name, rfl, hl, hf⟩ := writable_eq_ok_iff.1 hw
  have hfile :
      (d.put (folder ++ [name]) (.file content)).isFolderAt (folder ++ [name]) = false := by
    rw [isFolderAt, node?_put_self hf _]
    rfl
  exact writeFile_eq_ok_iff.2 ⟨hn, folder ++ [name],
    writable_eq_ok_iff.2 ⟨folder, name, rfl, locateNew_grows hgrows hl, hfile⟩,
    (put_put _ _ _).symm⟩

end Written

/-! ### The folder of a file -/

/-- Where a new node would be, the folder above is. -/
theorem look_parent {d : Disk} {p : Path} (h : p.WellFormed) {folder : Location} {name : Name}
    (hl : d.locateNew p.codes = .ok (folder, some name)) :
    p.names ≠ [] ∧ d.look p.parent.codes = .ok .folder := by
  obtain ⟨-, hs, before, hsteps, hw, hf, hp, -⟩ := locateNew_eq_ok_iff.1 hl
  rw [Path.stepsOf_codes h] at hsteps
  split_ifs at hsteps with hnames
  · have hlast := congrArg List.getLast? hsteps
    rw [List.getLast?_concat] at hlast
    exact absurd (Option.some.inj hlast).symm hp
  have hbefore : p.parent.names = before := by rw [Path.parent, hsteps, List.dropLast_concat]
  refine ⟨hnames, look_eq_ok_iff.2 ⟨folder, locate_eq_ok_iff.2 ⟨Path.codes_ne_nil _,
    Path.sizeOf_parent h hnames hs, ?_⟩, isFolderAt_iff.1 hf⟩⟩
  rw [start_codes h] at hw
  rw [start_codes h.parent, Path.stepsOf_codes h.parent, hbefore]
  split_ifs with hnil
  · subst hnil
    obtain rfl := Except.ok.inj hw
    exact (walk_singleton _ _ _).trans (step_eq_ok_iff.2 ⟨hf, .inl ⟨rfl, rfl⟩⟩)
  · exact hw

/-- **The folder of a file that was written is there.** -/
theorem makeFolders_written {d d' : Disk} {p : Path} {content : Text.Utf8.Octets}
    (hp : p.WellFormed) (h : d.writeFile p.text content = .ok d') :
    d'.makeFolders p.parent = (d', none) := by
  have hgrows := writeFile_grows h
  obtain ⟨hn, loc, hw, -⟩ := writeFile_eq_ok_iff.1 h
  obtain ⟨folder, name, -, hl, -⟩ := writable_eq_ok_iff.1 hw
  obtain ⟨hnames, hlook⟩ := look_parent hp (locateNew_grows hgrows hl)
  exact makeFolders_of_folder (Path.nameable_parent hp hn) hlook

/-- The folders above a path can be made, and then a file can be written there. -/
def Admits (d : Disk) (p : Path) : Prop :=
  ∃ d₁ content d₂, d.makeFolders p.parent = (d₁, none) ∧ d₁.writeFile p.text content = .ok d₂

/-- Where one file can be written, every other one can. -/
theorem Admits.writeFile {d : Disk} {p : Path} (h : d.Admits p) :
    ∃ d₁, d.makeFolders p.parent = (d₁, none) ∧
      ∀ content, ∃ d₂, d₁.writeFile p.text content = .ok d₂ := by
  obtain ⟨d₁, content, d₂, hmake, hwrite⟩ := h
  obtain ⟨hn, loc, hw, -⟩ := writeFile_eq_ok_iff.1 hwrite
  exact ⟨d₁, hmake, fun other => ⟨_, writeFile_eq_ok_iff.2 ⟨hn, loc, hw, rfl⟩⟩⟩

theorem admits_iff {d : Disk} {p : Path} :
    d.Admits p ↔ (d.makeFolders p.parent).2 = none ∧
      ((d.makeFolders p.parent).1.writeFile p.text []).toOption.isSome = true := by
  constructor
  · intro h
    obtain ⟨d₁, hmake, hwrite⟩ := h.writeFile
    obtain ⟨d₂, hwrite⟩ := hwrite []
    rw [hmake, hwrite]
    exact ⟨rfl, rfl⟩
  · rintro ⟨hmake, hwrite⟩
    obtain ⟨d₂, hwrite⟩ := exists_ok_of_isSome hwrite
    exact ⟨_, [], d₂, Prod.ext rfl hmake, hwrite⟩

instance (d : Disk) (p : Path) : Decidable (d.Admits p) := decidable_of_iff _ admits_iff.symm

end Tiered.Files.Disk
