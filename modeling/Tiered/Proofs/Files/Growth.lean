import Mathlib
import Tiered.Files.Access
import Tiered.Proofs.Result

/-!
# Growth — disks on which more is there

A disk grows when folders stay folders and what is there stays there (`Grows`).  Then every walk
that came through comes through to the same place (`walk_grows`, `locate_grows`,
`locateNew_grows`).  Putting a node where no folder is makes the disk grow (`grows_put`).
-/

namespace Tiered.Files.Disk

/-- Folders are still folders, and what was there is still there. -/
structure Grows (d d' : Disk) : Prop where
  here : d'.here = d.here
  folder : ∀ loc, d.isFolderAt loc = true → d'.isFolderAt loc = true
  there : ∀ loc, (d.node? loc).isSome = true → (d'.node? loc).isSome = true

theorem Grows.refl (d : Disk) : Grows d d := ⟨rfl, fun _ h => h, fun _ h => h⟩

theorem Grows.trans {d d' d'' : Disk} (h : Grows d d') (h' : Grows d' d'') : Grows d d'' :=
  ⟨h'.here.trans h.here, fun loc hf => h'.folder loc (h.folder loc hf),
    fun loc ht => h'.there loc (h.there loc ht)⟩

theorem isFolderAt_iff {d : Disk} {loc : Location} :
    d.isFolderAt loc = true ↔ d.node? loc = some .folder := by
  rw [isFolderAt, beq_iff_eq]

theorem isSome_of_isFolderAt {d : Disk} {loc : Location} (h : d.isFolderAt loc = true) :
    (d.node? loc).isSome = true := by
  rw [isFolderAt_iff.1 h]
  rfl

theorem ne_root_of_not_folder {d : Disk} {loc : Location} (h : d.isFolderAt loc = false) :
    loc ≠ [] := by
  rintro rfl
  exact absurd h (by rw [isFolderAt_iff.2 (node?_root d)]; decide)

/-- Putting a node where no folder is makes the disk grow. -/
theorem grows_put {d : Disk} {loc : Location} (h : d.isFolderAt loc = false) (node : Node) :
    Grows d (d.put loc node) := by
  have hput := node?_put d (ne_root_of_not_folder h) node
  refine ⟨rfl, ?_, ?_⟩
  · intro other hf
    have hne : other ≠ loc := by
      rintro rfl
      rw [h] at hf
      exact absurd hf (by decide)
    rwa [isFolderAt_iff, hput, if_neg hne, ← isFolderAt_iff]
  · intro other ht
    rw [hput]
    split_ifs
    · rfl
    · exact ht

/-! ### Walks -/

theorem step_eq_ok_iff {d : Disk} {loc next : Location} {name : Name} :
    d.step loc name = .ok next ↔ d.isFolderAt loc = true ∧
      (name = [point] ∧ next = loc ∨
        name = [point, point] ∧ next = loc.dropLast ∨
        name ≠ [point] ∧ name ≠ [point, point] ∧ sizeOf name ≤ maxNameSize ∧
          (d.node? (loc ++ [name])).isSome = true ∧ next = loc ++ [name]) := by
  rw [step]
  cases hf : d.isFolderAt loc with
  | false => simp
  | true =>
      simp only [Bool.not_true, Bool.false_eq_true, if_false, true_and]
      split_ifs with hp hpp hsize hnone
      -- a point
      · constructor
        · intro h
          exact .inl ⟨hp, (Except.ok.inj h).symm⟩
        · rintro (⟨-, rfl⟩ | ⟨hpp, -⟩ | ⟨hne, -⟩)
          · rfl
          · exact absurd (hp.symm.trans hpp) (by decide)
          · exact absurd hp hne
      -- a double point
      · constructor
        · intro h
          exact .inr (.inl ⟨hpp, (Except.ok.inj h).symm⟩)
        · rintro (⟨he, -⟩ | ⟨-, rfl⟩ | ⟨-, hne, -⟩)
          · exact absurd he hp
          · rfl
          · exact absurd hpp hne
      -- a name that is too long, one that is not there, and one that is
      · simp only [hp, hpp, Nat.not_le.2 hsize, false_and, and_false, or_self]
      · rw [Option.isNone_iff_eq_none] at hnone
        simp only [hp, hpp, hnone, Option.isSome_none, Bool.false_eq_true,
          false_and, and_false, or_self]
      · rw [Option.isNone_iff_eq_none, ← ne_eq, Option.ne_none_iff_isSome] at hnone
        simp only [hp, hpp, hnone, Nat.not_lt.1 hsize, ne_eq, not_false_eq_true, true_and,
          false_and, false_or, Except.ok.injEq]
        exact eq_comm

theorem step_grows {d d' : Disk} (h : Grows d d') {loc next : Location} {name : Name}
    (hs : d.step loc name = .ok next) : d'.step loc name = .ok next := by
  rw [step_eq_ok_iff] at hs ⊢
  obtain ⟨hf, hs⟩ := hs
  refine ⟨h.folder loc hf, ?_⟩
  rcases hs with hp | hpp | ⟨hp, hpp, hsize, ht, hn⟩
  · exact .inl hp
  · exact .inr (.inl hpp)
  · exact .inr (.inr ⟨hp, hpp, hsize, h.there _ ht, hn⟩)

theorem walk_append (d : Disk) (loc : Location) (before after : List Name) :
    d.walk loc (before ++ after) = (d.walk loc before).bind fun next => d.walk next after := by
  induction before generalizing loc with
  | nil => rfl
  | cons name before ih =>
      simp only [List.cons_append, walk]
      cases d.step loc name with
      | error cause => rfl
      | ok next => exact ih next

theorem walk_singleton (d : Disk) (loc : Location) (name : Name) :
    d.walk loc [name] = d.step loc name := by
  rw [walk]
  cases d.step loc name <;> rfl

/-- **A walk that came through comes through on a grown disk**, to the same place. -/
theorem walk_grows {d d' : Disk} (h : Grows d d') {loc last : Location} {names : List Name}
    (hw : d.walk loc names = .ok last) : d'.walk loc names = .ok last := by
  induction names generalizing loc with
  | nil => exact hw
  | cons name names ih =>
      obtain ⟨next, hs, hw⟩ := bind_eq_ok_iff.1 hw
      exact bind_eq_ok_iff.2 ⟨next, step_grows h hs, ih hw⟩

theorem start_grows {d d' : Disk} (h : Grows d d') (us : List Code) :
    d'.start us = d.start us := by
  rw [start, start, h.here]

/-! ### Places -/

theorem locate_eq_ok_iff {d : Disk} {us : List Code} {loc : Location} :
    d.locate us = .ok loc ↔ us ≠ [] ∧ sizeOf us < pathSizeLimit ∧
      d.walk (d.start us) (stepsOf us) = .ok loc := by
  rw [locate]
  split_ifs with he hs
  · simp [List.isEmpty_iff.1 he]
  · simp [Nat.not_lt.2 hs]
  · simp [List.isEmpty_iff.not.1 he, Nat.not_le.1 hs]

/-- Where a named new node would be: in a folder that the names before lead to. -/
theorem locateNew_eq_ok_iff {d : Disk} {us : List Code} {folder : Location} {name : Name} :
    d.locateNew us = .ok (folder, some name) ↔ us ≠ [] ∧ sizeOf us < pathSizeLimit ∧
      ∃ before, stepsOf us = before ++ [name] ∧ d.walk (d.start us) before = .ok folder ∧
        d.isFolderAt folder = true ∧ name ≠ [point] ∧ name ≠ [point, point] ∧
        sizeOf name ≤ maxNameSize := by
  rw [locateNew]
  split_ifs with he hs
  · simp [List.isEmpty_iff.1 he]
  · simp [Nat.not_lt.2 hs]
  rw [List.isEmpty_iff] at he
  cases hr : (stepsOf us).reverse with
  | nil =>
      rw [List.reverse_eq_nil_iff] at hr
      simp [hr]
  | cons last before =>
      have hsteps : stepsOf us = before.reverse ++ [last] := by
        rw [← List.reverse_reverse (stepsOf us), hr, List.reverse_cons]
      simp only [hsteps, List.append_singleton_inj, bind_eq_ok_iff]
      constructor
      · rintro ⟨f, hw, hf⟩
        split_ifs at hf with h₁ h₂ h₃
        · exact absurd hf (by simp)
        rw [not_or] at h₂
        obtain ⟨rfl, rfl⟩ : f = folder ∧ last = name := by simpa using hf
        simp only [Bool.not_eq_true, Bool.not_eq_false'] at h₁
        exact ⟨he, Nat.not_le.1 hs, _, ⟨rfl, rfl⟩, hw, h₁, h₂.1, h₂.2, Nat.not_lt.1 h₃⟩
      · rintro ⟨-, -, b, ⟨rfl, rfl⟩, hw, hf, hp, hpp, hsize⟩
        refine ⟨folder, hw, ?_⟩
        rw [hf, if_neg (by decide), if_neg (not_or.2 ⟨hp, hpp⟩), if_neg (Nat.not_lt.2 hsize)]

theorem locate_grows {d d' : Disk} (h : Grows d d') {us : List Code} {loc : Location}
    (hl : d.locate us = .ok loc) : d'.locate us = .ok loc := by
  obtain ⟨he, hs, hw⟩ := locate_eq_ok_iff.1 hl
  exact locate_eq_ok_iff.2 ⟨he, hs, start_grows h us ▸ walk_grows h hw⟩

theorem locateNew_grows {d d' : Disk} (h : Grows d d') {us : List Code} {folder : Location}
    {name : Name} (hl : d.locateNew us = .ok (folder, some name)) :
    d'.locateNew us = .ok (folder, some name) := by
  obtain ⟨he, hs, before, hsteps, hw, hf, hn⟩ := locateNew_eq_ok_iff.1 hl
  exact locateNew_eq_ok_iff.2
    ⟨he, hs, before, hsteps, start_grows h us ▸ walk_grows h hw, h.folder _ hf, hn⟩

end Tiered.Files.Disk
