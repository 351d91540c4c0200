import Mathlib
import Tiered.Proofs.Agree
import Tiered.Proofs.Files.Way

/-!
# Alike — disks that differ in the content of files only

Two disks are alike if they have folders and files at the same locations and the contents of their
files are related (`Disk.Alike`).  Every path leads to the same place on both, and whatever is done
fails on both in the same way or leaves them alike; only what is read may differ
(`Alike.readFile`).
-/

namespace Tiered.Files

open Text.Utf8 (Octets)

/-- There is nothing on both sides, a folder, or a file, and the contents of the files are
related. -/
inductive NodesAlike (R : Octets → Octets → Prop) : Option Node → Option Node → Prop where
  | none : NodesAlike R none none
  | folder : NodesAlike R (some .folder) (some .folder)
  | file {content content' : Octets} (h : R content content') :
    NodesAlike R (some (.file content)) (some (.file content'))

namespace NodesAlike

variable {R S : Octets → Octets → Prop} {n n' : Option Node}

theorem mono (h : NodesAlike R n n') (hRS : ∀ c c', R c c' → S c c') : NodesAlike S n n' := by
  cases h with
  | none => exact .none
  | folder => exact .folder
  | file hR => exact .file (hRS _ _ hR)

theorem isSome (h : NodesAlike R n n') : n'.isSome = n.isSome := by
  cases h <;> rfl

theorem isFolder (h : NodesAlike R n n') : (n' == some .folder) = (n == some .folder) := by
  cases h <;> rfl

end NodesAlike

namespace Disk

/-- What agrees on the code points of a path agrees if it is guarded. -/
theorem agree_guarded {α β : Type} {Q : α → β → Prop} {act : List Code → Except Cause α}
    {act' : List Code → Except Cause β} (path : Text)
    (hact : Agree Eq Q (act path.codes) (act' path.codes)) :
    Agree Eq Q (Disk.guarded path act) (Disk.guarded path act') := by
  rw [Disk.guarded, Disk.guarded]
  split
  · exact .error rfl
  · split_ifs
    · exact .error rfl
    · revert hact
      generalize act path.codes = x
      generalize act' path.codes = x'
      rintro (hQ | rfl)
      · exact .ok hQ
      · exact .error rfl

/-- The disks have the same folders, and files at the same locations with related contents. -/
structure Alike (R : Location → Octets → Octets → Prop) (d d' : Disk) : Prop where
  here : d'.here = d.here
  node : ∀ loc, NodesAlike (R loc) (d.node? loc) (d'.node? loc)

namespace Alike

theorem refl {R : Location → Octets → Octets → Prop} (h : ∀ loc c, R loc c c) (d : Disk) :
    Alike R d d := by
  refine ⟨rfl, fun loc => ?_⟩
  rcases d.node? loc with _ | _ | c
  · exact .none
  · exact .folder
  · exact .file (h loc c)

variable {R S : Location → Octets → Octets → Prop} {d d' : Disk} (h : Alike R d d')
include h

theorem mono (hRS : ∀ loc c c', R loc c c' → S loc c c') : Alike S d d' :=
  ⟨h.here, fun loc => (h.node loc).mono (hRS loc)⟩

/-- **What is put on both stays alike.** -/
theorem put {loc : Location} (hne : loc ≠ []) {node node' : Node}
    (hnode : NodesAlike (R loc) (some node) (some node')) :
    Alike R (d.put loc node) (d'.put loc node') := by
  refine ⟨h.here, fun other => ?_⟩
  rw [node?_put d hne, node?_put d' hne]
  by_cases ho : other = loc
  · subst ho
    rwa [if_pos rfl, if_pos rfl]
  · rw [if_neg ho, if_neg ho]
    exact h.node other

/-! ### Where paths lead -/

theorem isFolderAt (loc : Location) : d'.isFolderAt loc = d.isFolderAt loc := (h.node loc).isFolder

theorem step (loc : Location) (name : Name) : d'.step loc name = d.step loc name := by
  simp only [Disk.step, h.isFolderAt, ← Option.not_isSome, (h.node _).isSome]

theorem walk (loc : Location) (names : List Name) : d'.walk loc names = d.walk loc names := by
  induction names generalizing loc with
  | nil => rfl
  | cons name names ih =>
      rw [Disk.walk, Disk.walk, h.step]
      exact congrArg _ (funext ih)

theorem start (us : List Code) : d'.start us = d.start us := by
  rw [Disk.start, Disk.start, h.here]

/-- **A path leads to the same place.** -/
theorem locate (us : List Code) : d'.locate us = d.locate us := by
  rw [Disk.locate, Disk.locate, h.start, h.walk]

theorem locateNew (us : List Code) : d'.locateNew us = d.locateNew us := by
  simp only [Disk.locateNew, h.start, h.walk, h.isFolderAt]

theorem writable : d'.writable = d.writable := by
  funext us
  simp only [Disk.writable, h.locateNew, h.isFolderAt]

theorem free : d'.free = d.free := by
  funext us
  simp only [Disk.free, h.locateNew, (h.node _).isSome]

/-! ### What is found -/

/-- What a path names is alike. -/
theorem look (us : List Code) :
    Agree Eq (fun n n' => ∃ loc, d.locate us = .ok loc ∧ NodesAlike (R loc) (some n) (some n'))
      (d.look us) (d'.look us) := by
  rw [Disk.look, Disk.look, h.locate]
  cases hl : d.locate us with
  | error cause => exact .error rfl
  | ok loc =>
      have hnode := h.node loc
      simp only [Except.bind]
      revert hnode
      rcases d.node? loc with _ | n <;> rcases d'.node? loc with _ | n' <;> intro hnode
      · exact .error rfl
      · cases hnode
      · cases hnode
      · exact .ok ⟨loc, rfl, hnode⟩

theorem find (path : Text) :
    Agree Eq (fun n n' => ∃ S, NodesAlike S n n') (d.find path) (d'.find path) := by
  have hlook := agree_guarded path (h.look path.codes)
  rw [Disk.find, Disk.find]
  revert hlook
  generalize Disk.guarded path d.look = x
  generalize Disk.guarded path d'.look = x'
  rintro (⟨loc, -, hnode⟩ | @⟨fault, -, rfl⟩)
  · exact .ok ⟨_, hnode⟩
  -- a missing or misplaced name, and a path that no file can have, are no fault
  · cases fault with
    | nullCharacter | unencodable gap => exact .ok ⟨R [], .none⟩
    | refused cause path => cases cause <;> first | exact .ok ⟨R [], .none⟩ | exact .error rfl

theorem exists? (path : Text) : d'.exists? path = d.exists? path := by
  rw [Disk.exists?, Disk.exists?]
  refine ((h.find path).map ?_).eq.symm
  rintro n n' ⟨_, hnode⟩
  exact hnode.isSome.symm

theorem isFolder? (path : Text) : d'.isFolder? path = d.isFolder? path := by
  rw [Disk.isFolder?, Disk.isFolder?]
  refine ((h.find path).map ?_).eq.symm
  rintro n n' ⟨_, hnode⟩
  exact hnode.isFolder.symm

/-- **What is read is related**, or reading fails on both alike. -/
theorem readFile (path : Text) :
    Agree Eq (fun c c' => ∃ loc, d.locate path.codes = .ok loc ∧ R loc c c')
      (d.readFile path) (d'.readFile path) := by
  refine agree_guarded path ((h.look path.codes).bind ?_)
  rintro n n' ⟨loc, hl, hnode⟩
  cases hnode with
  | folder => exact .error rfl
  | file hR => exact .ok ⟨loc, hl, hR⟩

/-! ### What is written and made -/

/-- **What is written leaves alike what was**, if the contents are related where the path leads. -/
theorem writeFile {path : Text} {c c' : Octets}
    (hR : ∀ loc, d.writable path.codes = .ok loc → R loc c c') :
    Agree Eq (Alike R) (d.writeFile path c) (d'.writeFile path c') := by
  rw [Disk.writeFile, Disk.writeFile, h.writable]
  cases hw : Disk.guarded path d.writable with
  | error fault => exact .error rfl
  | ok loc =>
      obtain ⟨-, hw⟩ := guarded_eq_ok_iff.1 hw
      obtain ⟨folder, name, -, -, hf⟩ := writable_eq_ok_iff.1 hw
      exact .ok (h.put (ne_root_of_not_folder hf) (.file (hR loc hw)))

theorem makeFolder (path : Text) :
    Agree Eq (Alike R) (d.makeFolder path) (d'.makeFolder path) := by
  rw [Disk.makeFolder, Disk.makeFolder, h.free]
  cases hw : Disk.guarded path d.free with
  | error fault => exact .error rfl
  | ok loc =>
      obtain ⟨-, hw⟩ := guarded_eq_ok_iff.1 hw
      obtain ⟨folder, name, rfl, -, -⟩ := free_eq_ok_iff.1 hw
      exact .ok (h.put (by simp) .folder)

theorem settled (path : Text) (fault : Fault) :
    d'.settled path fault = d.settled path fault := by
  simp only [Disk.settled, h.isFolder?]

/-- **Folders that are made leave alike what was**, also where making them fails on the way. -/
theorem makeFolders (p : Path) :
    Alike R (d.makeFolders p).1 (d'.makeFolders p).1 ∧
      (d'.makeFolders p).2 = (d.makeFolders p).2 := by
  have hmake := h.makeFolder p.text
  rw [Disk.makeFolders.eq_def d p, Disk.makeFolders.eq_def d' p]
  revert hmake
  generalize d.makeFolder p.text = x
  generalize d'.makeFolder p.text = x'
  rintro (hmade | @⟨fault, -, rfl⟩)
  · exact ⟨hmade, rfl⟩
  by_cases hmiss : ∃ path, fault = .refused .missing path
  -- behind the folders above it
  · obtain ⟨path, rfl⟩ := hmiss
    by_cases hnames : p.names = []
    · simp only [hnames, dite_true]
      exact ⟨h, trivial⟩
    have hrest := makeFolders p.parent
    simp only [hnames, dite_false]
    revert hrest
    rcases d.makeFolders p.parent with ⟨above, fault⟩
    rcases d'.makeFolders p.parent with ⟨above', behind⟩
    rintro ⟨habove, rfl⟩
    cases behind with
    | some fault => exact ⟨habove, rfl⟩
    | none =>
        have hlast := habove.makeFolder p.text
        revert hlast
        dsimp only
        generalize above.makeFolder p.text = y
        generalize above'.makeFolder p.text = y'
        rintro (hmade | @⟨fault, -, rfl⟩)
        · exact ⟨hmade, rfl⟩
        · rcases fault with ⟨_ | _ | _ | _ | _, path⟩ | _ | gap
          all_goals first
            | exact ⟨habove, rfl⟩
            | exact ⟨habove, habove.settled p.text (.refused _ path)⟩
  -- not at all
  · rcases fault with ⟨_ | _ | _ | _ | _, path⟩ | _ | gap
    all_goals first
      | exact ⟨h, rfl⟩
      | exact ⟨h, h.settled p.text (.refused _ path)⟩
      | exact absurd ⟨path, rfl⟩ hmiss
termination_by p.names.length
decreasing_by
  rw [Path.parent, List.length_dropLast]
  have := List.length_pos_iff.2 hnames
  omega

end Alike

end Disk

end Tiered.Files
