import Mathlib
import Tiered.Proofs.Files.Fault

/-!
# Way — folders made on the way to a path

Making a folder makes the folders above it first, and keeps those that it made if it fails further
down.  Whatever it comes to, what was there stays as it is, and each folder that has come is what
the path or a path above it names (`makesWay_makeFolders`).
-/

namespace Tiered.Files.Disk

variable {d d' d'' : Disk} {p : Path}

/-- There is a folder more at places where nothing was, and nothing else has changed. -/
structure AddsFolders (d d' : Disk) : Prop where
  here : d'.here = d.here
  node : ∀ loc, d'.node? loc = d.node? loc ∨ d.node? loc = none ∧ d'.node? loc = some .folder

theorem AddsFolders.refl (d : Disk) : AddsFolders d d := ⟨rfl, fun _ => .inl rfl⟩

theorem AddsFolders.trans (h : AddsFolders d d') (h' : AddsFolders d' d'') :
    AddsFolders d d'' := by
  refine ⟨h'.here.trans h.here, fun loc => ?_⟩
  rcases h.node loc with he | ⟨hn, hf⟩
  · rw [← he]
    exact h'.node loc
  · rcases h'.node loc with he | ⟨hn', -⟩
    · exact .inr ⟨hn, he.trans hf⟩
    · rw [hf] at hn'
      exact absurd hn' (by simp)

theorem AddsFolders.node_of_some (h : AddsFolders d d') {loc : Location} {node : Node}
    (hn : d.node? loc = some node) : d'.node? loc = some node := by
  rcases h.node loc with he | ⟨hnone, -⟩
  · exact he.trans hn
  · rw [hn] at hnone
    exact absurd hnone (by simp)

theorem AddsFolders.grows (h : AddsFolders d d') : Grows d d' := by
  refine ⟨h.here, fun loc hf => ?_, fun loc ht => ?_⟩
  · rw [isFolderAt_iff] at hf ⊢
    exact h.node_of_some hf
  · obtain ⟨node, hn⟩ := Option.isSome_iff_exists.1 ht
    rw [h.node_of_some hn]
    rfl

/-- Folders have come on the way to a path, and nothing else has changed: each of them is what the
path or a path above it names. -/
structure MakesWay (d d' : Disk) (p : Path) : Prop extends AddsFolders d d' where
  named : ∀ loc, d.node? loc = none → d'.node? loc = some .folder →
    ∃ n, d'.locate (Path.parent^[n] p).codes = .ok loc

theorem MakesWay.refl (d : Disk) (p : Path) : MakesWay d d p := by
  refine ⟨.refl d, fun loc hn hf => ?_⟩
  rw [hn] at hf
  exact absurd hf (by simp)

theorem MakesWay.trans (h : MakesWay d d' p) (h' : MakesWay d' d'' p) : MakesWay d d'' p := by
  refine ⟨h.toAddsFolders.trans h'.toAddsFolders, fun loc hn hf => ?_⟩
  rcases h.node loc with he | ⟨-, hf'⟩
  · exact h'.named loc (he.trans hn) hf
  · obtain ⟨n, hl⟩ := h.named loc hn hf'
    exact ⟨n, locate_grows h'.grows hl⟩

/-- What is on the way to the folder of a path is on the way to the path. -/
theorem MakesWay.of_parent (h : MakesWay d d' p.parent) : MakesWay d d' p := by
  refine ⟨h.toAddsFolders, fun loc hn hf => ?_⟩
  obtain ⟨n, hl⟩ := h.named loc hn hf
  exact ⟨n + 1, hl⟩

theorem free_eq_ok_iff {us : List Code} {loc : Location} :
    d.free us = .ok loc ↔ ∃ folder name, loc = folder ++ [name] ∧
      d.locateNew us = .ok (folder, some name) ∧ d.node? loc = none := by
  rw [free, bind_eq_ok_iff]
  constructor
  · rintro ⟨⟨folder, last⟩, hl, h⟩
    cases last with
    | none => exact absurd h (by simp)
    | some name =>
        dsimp only at h
        split_ifs at h with hf
        obtain rfl := Except.ok.inj h
        exact ⟨folder, name, rfl, hl, by simpa using hf⟩
  · rintro ⟨folder, name, rfl, hl, hf⟩
    exact ⟨_, hl, by simp [hf]⟩

/-- A folder that is made is the only change. -/
theorem makesWay_makeFolder (h : d.makeFolder p.text = .ok d') : MakesWay d d' p := by
  obtain ⟨loc, hg, rfl⟩ := map_eq_ok_iff.1 h
  obtain ⟨-, hw⟩ := guarded_eq_ok_iff.1 hg
  obtain ⟨folder, name, rfl, hl, hfree⟩ := free_eq_ok_iff.1 hw
  have hnot : d.isFolderAt (folder ++ [name]) = false := by rw [isFolderAt, hfree]; rfl
  have hput := node?_put d (ne_root_of_not_folder hnot) .folder
  refine ⟨⟨rfl, fun other => ?_⟩, fun other hn hf => ?_⟩
  · rw [hput]
    split_ifs with he
    · exact .inr ⟨he ▸ hfree, rfl⟩
    · exact .inl rfl
  · rw [hput] at hf
    split_ifs at hf with he
    · exact ⟨0, he ▸ locate_put hl hnot _⟩
    · rw [hn] at hf
      exact absurd hf (by simp)

/-- **Making folders makes way**, also where it fails on the way. -/
theorem makesWay_makeFolders (d : Disk) (p : Path) : MakesWay d (d.makeFolders p).1 p := by
  -- a folder is made at once, or behind the folders above it, or not at all
  fun_induction Disk.makeFolders d p with
  | case1 p made hm => exact makesWay_makeFolder hm
  | case4 p path hm hnames above habove made hmade ih =>
      rw [habove] at ih
      exact ih.of_parent.trans (makesWay_makeFolder hmade)
  | case3 p path hm hnames above fault habove ih
  | case5 p path hm hnames above habove path' hmade ih
  | case6 p path hm hnames above habove fault hmiss hmade ih =>
      rw [habove] at ih
      exact ih.of_parent
  | case2 p path hm hnames => exact .refl d p
  | case7 p fault hmiss hm => exact .refl d p

end Tiered.Files.Disk
