import Mathlib
import Tiered.Proofs.Files.Way

/-!
# Tree — disks whose nodes hang together

On a `Tree` every node is in a folder, every name is one that a file can have, and the current
folder is there.  A path without double points has one location there (`location`): what is found,
read and written at the path is at that location (`Tree.find_eq`, `readFile_location`,
`Tree.writeFile`), and making folders keeps the disk a tree (`Tree.makeFolders`).
-/

namespace Tiered.Files

/-- A well-formed path without double points. -/
structure Path.Direct (p : Path) : Prop extends p.WellFormed where
  noUp : [point, point] ∉ p.names

theorem Path.Direct.parent {p : Path} (h : p.Direct) : p.parent.Direct :=
  ⟨h.toWellFormed.parent, fun hm => h.noUp (List.mem_of_mem_dropLast hm)⟩

theorem Path.Direct.not_point {p : Path} (h : p.Direct) : [point] ∉ p.names :=
  fun hm => (h.names _ hm).ne_point rfl

namespace Disk

/-- Every node is in a folder, every name is one that a file can have, and the current folder is
there. -/
structure Tree (d : Disk) : Prop where
  here : d.isFolderAt d.here = true
  parent : ∀ loc name, (d.node? (loc ++ [name])).isSome = true → d.isFolderAt loc = true
  named : ∀ loc, (d.node? loc).isSome = true → ∀ name ∈ loc, Nameable ⟨name⟩

/-- The location of a path without double points. -/
def location (d : Disk) (p : Path) : Location := d.base p ++ p.names

/-- What is in a folder that is not there is not there. -/
theorem Tree.above {d : Disk} (h : d.Tree) {loc names : Location} (hne : names ≠ [])
    (hs : (d.node? (loc ++ names)).isSome = true) : d.isFolderAt loc = true := by
  induction names using List.reverseRecOn with
  | nil => exact absurd rfl hne
  | append_singleton names name ih =>
      have hf := h.parent (loc ++ names) name (by rwa [List.append_assoc])
      by_cases hn : names = []
      · rwa [hn, List.append_nil] at hf
      · exact ih hn (isSome_of_isFolderAt hf)

theorem Tree.base {d : Disk} (h : d.Tree) (p : Path) : d.isFolderAt (d.base p) = true := by
  rw [Disk.base]
  split_ifs
  · exact h.here
  · rw [isFolderAt_iff, node?_root]

/-! ### Walks without points -/

/-- A walk without points leads down. -/
theorem walk_down {d : Disk} {loc last : Location} {names : List Name}
    (hp : [point] ∉ names) (hpp : [point, point] ∉ names) (h : d.walk loc names = .ok last) :
    last = loc ++ names := by
  induction names generalizing loc with
  | nil =>
      rw [List.append_nil]
      exact (Except.ok.inj h).symm
  | cons name names ih =>
      rw [List.mem_cons, not_or] at hp hpp
      obtain ⟨next, hs, hw⟩ := bind_eq_ok_iff.1 h
      obtain ⟨-, ⟨he, -⟩ | ⟨he, -⟩ | ⟨-, -, -, -, rfl⟩⟩ := step_eq_ok_iff.1 hs
      · exact absurd he.symm hp.1
      · exact absurd he.symm hpp.1
      · rw [ih hp.2 hpp.2 hw, List.append_assoc, List.singleton_append]

/-- A walk without points stops where something is missing, or no folder, only if nothing is at its
end. -/
theorem Tree.walk_missing {d : Disk} (ht : d.Tree) {loc : Location} {names : List Name}
    {cause : Cause} (hp : [point] ∉ names) (hpp : [point, point] ∉ names)
    (h : d.walk loc names = .error cause) (hc : cause = .missing ∨ cause = .notFolder) :
    d.node? (loc ++ names) = none := by
  induction names generalizing loc with
  | nil => exact absurd h (by simp [walk])
  | cons name names ih =>
      rw [List.mem_cons, not_or] at hp hpp
      rw [List.append_cons]
      rcases bind_eq_error_iff.1 h with hs | ⟨next, hs, hw⟩
      -- what is behind a name that the walk stops at would hang in the air
      · by_contra hsome
        rw [← ne_eq, Option.ne_none_iff_isSome] at hsome
        have hnode : (d.node? (loc ++ [name])).isSome = true := by
          by_cases hn : names = []
          · rwa [hn, List.append_nil] at hsome
          · exact isSome_of_isFolderAt (ht.above hn hsome)
        have hf := ht.parent loc name hnode
        simp only [step, hf, Bool.not_true, Bool.false_eq_true, if_false, Ne.symm hp.1,
          Ne.symm hpp.1, Option.isNone_eq_false_iff.2 hnode] at hs
        split_ifs at hs
        obtain rfl := Except.error.inj hs
        rcases hc with hc | hc <;> exact absurd hc (by simp)
      · obtain ⟨-, ⟨he, -⟩ | ⟨he, -⟩ | ⟨-, -, -, -, rfl⟩⟩ := step_eq_ok_iff.1 hs
        · exact absurd he.symm hp.1
        · exact absurd he.symm hpp.1
        · exact ih hp.2 hpp.2 hw

/-! ### The location of a path -/

variable {d : Disk} {p : Path}

theorem location_of_nil (h : p.names = []) : d.location p = d.base p := by
  rw [location, h, List.append_nil]

/-- What a path names is at its location. -/
theorem locate_location (hp : p.Direct) {loc : Location} (h : d.locate p.codes = .ok loc) :
    loc = d.location p := by
  obtain ⟨-, -, hw⟩ := locate_eq_ok_iff.1 h
  rw [start_codes hp.toWellFormed, Path.stepsOf_codes hp.toWellFormed] at hw
  split_ifs at hw with hn
  · rw [walk_singleton, step_eq_ok_iff] at hw
    obtain ⟨-, ⟨-, rfl⟩ | ⟨he, -⟩ | ⟨he, -⟩⟩ := hw
    · exact (location_of_nil hn).symm
    · exact absurd he (by decide)
    · exact absurd rfl he
  · exact walk_down hp.not_point hp.noUp hw

/-- A path that names nothing has nothing at its location. -/
theorem Tree.locate_missing (ht : d.Tree) (hp : p.Direct) {cause : Cause}
    (h : d.locate p.codes = .error cause) (hc : cause = .missing ∨ cause = .notFolder) :
    d.node? (d.location p) = none := by
  rw [locate, if_neg (by simpa using Path.codes_ne_nil p)] at h
  split_ifs at h with hsize
  · obtain rfl := Except.error.inj h
    rcases hc with hc | hc <;> exact absurd hc (by simp)
  rw [start_codes hp.toWellFormed, Path.stepsOf_codes hp.toWellFormed] at h
  split_ifs at h with hn
  -- without names the path leads to its start, which is there
  · have hok : d.walk (d.base p) [[point]] = .ok (d.base p) :=
      (walk_singleton _ _ _).trans (step_eq_ok_iff.2 ⟨ht.base p, .inl ⟨rfl, rfl⟩⟩)
    rw [hok] at h
    exact absurd h (by simp)
  · exact ht.walk_missing hp.not_point hp.noUp h hc

theorem look_location (hp : p.Direct) {node : Node} (h : d.look p.codes = .ok node) :
    d.node? (d.location p) = some node := by
  obtain ⟨loc, hl, hnode⟩ := look_eq_ok_iff.1 h
  rwa [← locate_location hp hl]

theorem Tree.look_missing (ht : d.Tree) (hp : p.Direct) {cause : Cause}
    (h : d.look p.codes = .error cause) (hc : cause = .missing ∨ cause = .notFolder) :
    d.node? (d.location p) = none := by
  rcases bind_eq_error_iff.1 h with hl | ⟨loc, hl, hnode⟩
  · exact ht.locate_missing hp hl hc
  · rw [← locate_location hp hl]
    cases hn : d.node? loc with
    | none => rfl
    | some node => simp [hn] at hnode

/-- What no file can have as its path is not there. -/
theorem Tree.not_nameable (ht : d.Tree) (hp : p.Direct) (hn : ¬ Nameable p.text) :
    d.node? (d.location p) = none := by
  by_contra hsome
  rw [← ne_eq, Option.ne_none_iff_isSome] at hsome
  refine hn ((Path.nameable_text_iff hp.toWellFormed).2 fun name hm => ?_)
  exact ht.named _ hsome name (List.mem_append_right _ hm)

/-- **What is found at a path is what is at its location.** -/
theorem Tree.find_eq (ht : d.Tree) (hp : p.Direct) {node : Option Node}
    (h : d.find p.text = .ok node) : node = d.node? (d.location p) := by
  cases node with
  | some node => exact (look_location hp (look_of_find h)).symm
  | none =>
      rcases find_eq_none h with hn | ⟨cause, hl, hc⟩
      · exact (ht.not_nameable hp hn).symm
      · exact (ht.look_missing hp hl hc).symm

/-- **What is read at a path is the file at its location.** -/
theorem readFile_location (hp : p.Direct) {content : Text.Utf8.Octets}
    (h : d.readFile p.text = .ok content) : d.node? (d.location p) = some (.file content) :=
  look_location hp (look_of_readFile h)

/-! ### Where a new node would be -/

theorem start_location (hp : p.Direct) {folder : Location} {name : Name}
    (h : d.locateNew p.codes = .ok (folder, some name)) :
    d.location p = folder ++ [name] ∧ name ∈ p.names ∧ d.isFolderAt folder = true := by
  obtain ⟨-, -, before, hsteps, hw, hf, hne, -⟩ := locateNew_eq_ok_iff.1 h
  rw [Path.stepsOf_codes hp.toWellFormed] at hsteps
  split_ifs at hsteps with hn
  · have hlast := congrArg List.getLast? hsteps
    rw [List.getLast?_concat] at hlast
    exact absurd (Option.some.inj hlast).symm hne
  · have hbefore : ∀ n ∈ before, n ∈ p.names := by
      intro n hm
      rw [hsteps]
      exact List.mem_append_left _ hm
    rw [start_codes hp.toWellFormed] at hw
    have hfolder := walk_down (fun hm => hp.not_point (hbefore _ hm))
      (fun hm => hp.noUp (hbefore _ hm)) hw
    refine ⟨?_, ?_, hf⟩
    · rw [location, hsteps, hfolder, List.append_assoc]
    · rw [hsteps]
      simp

/-- Putting a node into a folder, where no folder is, under a name that a file can have, keeps a
disk a tree. -/
theorem Tree.put (ht : d.Tree) {folder : Location} {name : Name}
    (hf : d.isFolderAt folder = true) (hn : Nameable ⟨name⟩)
    (hfree : d.isFolderAt (folder ++ [name]) = false) (node : Node) :
    (d.put (folder ++ [name]) node).Tree := by
  have hgrows := grows_put hfree node
  have hput := node?_put d (ne_root_of_not_folder hfree) node
  refine ⟨hgrows.folder _ ht.here, ?_, ?_⟩
  · intro loc last hs
    rw [hput] at hs
    split_ifs at hs with he
    · obtain ⟨rfl, -⟩ := List.append_singleton_inj.1 he
      exact hgrows.folder _ hf
    · exact hgrows.folder _ (ht.parent loc last hs)
  · intro loc hs n hm
    rw [hput] at hs
    split_ifs at hs with he
    · subst he
      rcases List.mem_append.1 hm with hm | hm
      · exact ht.named folder (isSome_of_isFolderAt hf) n hm
      · rwa [List.mem_singleton.1 hm]
    · exact ht.named loc hs n hm

/-- **A file is written at the location of its path**, and the disk stays a tree. -/
theorem Tree.writeFile (ht : d.Tree) (hp : p.Direct) {d' : Disk} {content : Text.Utf8.Octets}
    (h : d.writeFile p.text content = .ok d') :
    d' = d.put (d.location p) (.file content) ∧ d.isFolderAt (d.location p) = false ∧ d'.Tree := by
  obtain ⟨hn, loc, hw, rfl⟩ := writeFile_eq_ok_iff.1 h
  obtain ⟨folder, name, rfl, hl, hfree⟩ := writable_eq_ok_iff.1 hw
  obtain ⟨hloc, hname, hf⟩ := start_location hp hl
  have hnameable := (Path.nameable_text_iff hp.toWellFormed).1 hn name hname
  rw [hloc]
  exact ⟨rfl, hfree, ht.put hf hnameable hfree _⟩

/-! ### Making folders -/

theorem Tree.makeFolder (ht : d.Tree) (hp : p.Direct) {d' : Disk}
    (h : d.makeFolder p.text = .ok d') : d'.Tree := by
  obtain ⟨loc, hg, rfl⟩ := map_eq_ok_iff.1 h
  obtain ⟨hn, hw⟩ := guarded_eq_ok_iff.1 hg
  obtain ⟨folder, name, rfl, hl, hfree⟩ := free_eq_ok_iff.1 hw
  obtain ⟨hloc, hname, hf⟩ := start_location hp hl
  have hnameable := (Path.nameable_text_iff hp.toWellFormed).1 hn name hname
  have hnot : d.isFolderAt (folder ++ [name]) = false := by rw [isFolderAt, hfree]; rfl
  exact ht.put hf hnameable hnot _

/-- **Making folders keeps a disk a tree**, also where it fails on the way. -/
theorem Tree.makeFolders (ht : d.Tree) (hp : p.Direct) : (d.makeFolders p).1.Tree := by
  -- a folder is made at once, or behind the folders above it, or not at all
  fun_induction Disk.makeFolders d p with
  | case1 p made hm => exact ht.makeFolder hp hm
  | case4 p path hm hnames above habove made hmade ih =>
      have htree := ih hp.parent
      rw [habove] at htree
      exact Tree.makeFolder htree hp hmade
  | case3 p path hm hnames above fault habove ih
  | case5 p path hm hnames above habove path' hmade ih
  | case6 p path hm hnames above habove fault hmiss hmade ih =>
      have ih := ih hp.parent
      rwa [habove] at ih
  | case2 p path hm hnames => exact ht
  | case7 p fault hmiss hm => exact ht

end Disk

end Tiered.Files
