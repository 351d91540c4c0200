import Mathlib
import Tiered.Proofs.Files.Write

/-!
# Fault — refusals of the disk and paths that no file can have

An operation on a path fails in two ways: the disk refuses it, or the path is one that no file can
have (`Fault.Refusal`).  Which of the two is decided by the path alone: the disk refuses exactly
what is `Nameable` (`guarded_fault`), also while the folders above a path are made
(`makeFolders_fault`).
-/

namespace Tiered.Files

/-- The disk refused the operation; the path itself is one that a file can have. -/
def Fault.Refusal (fault : Fault) : Prop := ∃ cause path, fault = .refused cause path

theorem Fault.refusal_refused (cause : Cause) (path : Text) :
    (Fault.refused cause path).Refusal :=
  ⟨cause, path, rfl⟩

theorem Fault.not_refusal_null : ¬ Fault.nullCharacter.Refusal := by
  rintro ⟨_, _, h⟩
  exact absurd h (by simp)

theorem Fault.not_refusal_unencodable (gap : Text.Utf8.Gap) :
    ¬ (Fault.unencodable gap).Refusal := by
  rintro ⟨_, _, h⟩
  exact absurd h (by simp)

namespace Disk

/-- **The disk refuses exactly what could be the path of a file.** -/
theorem guarded_fault {α : Type} {path : Text} {act : List Code → Except Cause α} {fault : Fault}
    (h : guarded path act = .error fault) : fault.Refusal ↔ Nameable path := by
  rw [guarded] at h
  cases hg : Text.Utf8.Gap.first? path with
  | some gap =>
      obtain rfl : Fault.unencodable gap = fault := by simpa [hg] using h
      refine iff_of_false (Fault.not_refusal_unencodable gap) fun hn => ?_
      rw [hn.gap] at hg
      exact absurd hg (by simp)
  | none =>
      simp only [hg] at h
      split_ifs at h with h₀
      · obtain rfl := Except.error.inj h
        exact iff_of_false Fault.not_refusal_null fun hn => hn.null (by simpa using h₀)
      · refine iff_of_true ?_ ⟨hg, by simpa using h₀⟩
        cases ha : act path.codes with
        | ok a => simp [ha] at h
        | error cause =>
            obtain rfl : Fault.refused cause path = fault := by simpa [ha] using h
            exact Fault.refusal_refused _ _

/-- What cannot be the path of a file is at fault whatever is done. -/
theorem guarded_of_not_nameable {α : Type} {path : Text} (h : ¬ Nameable path)
    (act : List Code → Except Cause α) : ∃ fault, guarded path act = .error fault := by
  cases hg : guarded path act with
  | ok a => exact absurd (guarded_eq_ok_iff.1 hg).1 h
  | error fault => exact ⟨fault, rfl⟩

/-- Asking what is there fails only where the disk refuses a name as too long. -/
theorem find_fault {d : Disk} {path : Text} {fault : Fault} (h : d.find path = .error fault) :
    Nameable path ∧ ∃ cause, fault = .refused cause path ∧ cause ≠ .missing ∧
      cause ≠ .notFolder ∧ d.look path.codes = .error cause := by
  rw [find] at h
  by_cases hn : Nameable path
  · rw [guarded_of_nameable hn] at h
    cases hl : d.look path.codes with
    | ok node => simp [hl] at h
    | error cause =>
        rw [hl] at h
        cases cause <;> simp at h
        all_goals exact ⟨hn, _, h.symm, by simp, by simp, rfl⟩
  · obtain ⟨fault', hg⟩ := guarded_of_not_nameable hn d.look
    have hr := (guarded_fault hg).not.2 hn
    rw [hg] at h
    cases fault' with
    | refused cause place => exact absurd (Fault.refusal_refused _ _) hr
    | nullCharacter => simp at h
    | unencodable gap => simp at h

/-! ### Names that are too long -/

section TooLong

variable {d d' : Disk} {cause : Cause}

/-- A step that is refused, but not because something is missing or misplaced, is refused on a grown
disk. -/
theorem step_refused_grows (h : Grows d d') {loc : Location} {name : Name}
    (hs : d.step loc name = .error cause) (hm : cause ≠ .missing) (hf : cause ≠ .notFolder) :
    d'.step loc name = .error cause := by
  rw [step] at hs
  split_ifs at hs with hfolder hp hpp hsize hnone
  · exact absurd (Except.error.inj hs).symm hf
  · rw [Bool.not_eq_true, Bool.not_eq_false'] at hfolder
    rw [step, h.folder loc hfolder, if_neg (by decide), if_neg hp, if_neg hpp, if_pos hsize]
    exact hs
  · exact absurd (Except.error.inj hs).symm hm

/-- So is a walk. -/
theorem walk_refused_grows (h : Grows d d') {loc : Location} {names : List Name}
    (hw : d.walk loc names = .error cause) (hm : cause ≠ .missing) (hf : cause ≠ .notFolder) :
    d'.walk loc names = .error cause := by
  induction names generalizing loc with
  | nil => exact absurd hw (by simp [walk])
  | cons name names ih =>
      rw [walk]
      rcases bind_eq_error_iff.1 hw with hs | ⟨next, hs, hw⟩
      · exact bind_eq_error_iff.2 (.inl (step_refused_grows h hs hm hf))
      · exact bind_eq_error_iff.2 (.inr ⟨next, step_grows h hs, ih hw⟩)

/-- **What is refused as too long is refused on a grown disk.** -/
theorem find_error_grows (h : Grows d d') {path : Text} {fault : Fault}
    (he : d.find path = .error fault) : d'.find path = .error fault := by
  obtain ⟨hn, cause, rfl, hm, hf, hl⟩ := find_fault he
  have hlocate : d'.locate path.codes = .error cause := by
    rcases bind_eq_error_iff.1 hl with hl | ⟨loc, -, hnode⟩
    · rw [locate] at hl ⊢
      split_ifs at hl ⊢
      · exact hl
      · exact hl
      · rw [start_grows h]
        exact walk_refused_grows h hl hm hf
    · cases hnone : d.node? loc with
      | some node => simp [hnone] at hnode
      | none => exact absurd (by simpa [hnone] using hnode : Cause.missing = cause).symm hm
  have hlook : d'.look path.codes = .error cause := bind_eq_error_iff.2 (.inl hlocate)
  rw [find, guarded_of_nameable hn, hlook]
  cases cause <;> first | rfl | exact absurd rfl hm | exact absurd rfl hf

end TooLong

theorem look_of_find {d : Disk} {path : Text} {node : Node}
    (h : d.find path = .ok (some node)) : d.look path.codes = .ok node := by
  rw [find] at h
  split at h
  · next found hg => rw [(guarded_eq_ok_iff.1 hg).2, Option.some.inj (Except.ok.inj h)]
  all_goals exact absurd h (by simp)

/-- Nothing is found where a name is missing or misplaced, and where no file can have the path. -/
theorem find_eq_none {d : Disk} {path : Text} (h : d.find path = .ok none) :
    ¬ Nameable path ∨
      ∃ cause, d.look path.codes = .error cause ∧ (cause = .missing ∨ cause = .notFolder) := by
  refine or_iff_not_imp_left.2 fun hn => ?_
  rw [find, guarded_of_nameable (not_not.1 hn)] at h
  cases hl : d.look path.codes with
  | ok node => simp [hl] at h
  | error cause =>
      rw [hl] at h
      cases cause <;> simp at h
      · exact ⟨_, rfl, .inl rfl⟩
      · exact ⟨_, rfl, .inr rfl⟩

/-- What is there has a path that a file can have. -/
theorem nameable_of_exists? {d : Disk} {path : Text} (h : d.exists? path = .ok true) :
    Nameable path := by
  obtain ⟨node, hf, hnode⟩ := map_eq_ok_iff.1 h
  obtain ⟨node, rfl⟩ := Option.isSome_iff_exists.1 hnode
  rw [find] at hf
  split at hf
  · next hg => exact (guarded_eq_ok_iff.1 hg).1
  all_goals exact absurd hf (by simp)

/-- A fault that is settled as one remains what it was: a refusal or a fault of the path. -/
theorem settled_fault {d : Disk} {path : Text} {fault fault' : Fault}
    (h : d.settled path fault = some fault') : fault'.Refusal ↔ fault.Refusal := by
  cases fault with
  | nullCharacter => simp [settled] at h; rw [h]
  | unencodable gap => simp [settled] at h; rw [h]
  | refused cause place =>
      refine iff_of_true ?_ (Fault.refusal_refused _ _)
      simp only [settled] at h
      cases hf : d.isFolder? path with
      | ok found =>
          cases found with
          | true => simp [hf] at h
          | false =>
              obtain rfl : Fault.refused cause place = fault' := by simpa [hf] using h
              exact Fault.refusal_refused _ _
      | error other =>
          obtain rfl : other = fault' := by simpa [hf] using h
          obtain ⟨-, cause, rfl, -⟩ := find_fault (map_eq_error_iff.1 hf)
          exact Fault.refusal_refused _ _

theorem makeFolder_fault {d : Disk} {path : Text} {fault : Fault}
    (h : d.makeFolder path = .error fault) : fault.Refusal ↔ Nameable path :=
  guarded_fault (map_eq_error_iff.1 h)

/-- Making a folder under a path that no file can have is at fault at once. -/
theorem makeFolders_of_not_nameable {d : Disk} {p : Path} (h : ¬ Nameable p.text) :
    ∃ fault, d.makeFolders p = (d, some fault) ∧ ¬ fault.Refusal := by
  obtain ⟨fault, hg⟩ := guarded_of_not_nameable h d.free
  have hr := (guarded_fault hg).not.2 h
  have hm : d.makeFolder p.text = .error fault := map_eq_error_iff.2 hg
  refine ⟨fault, ?_, hr⟩
  rw [makeFolders, hm]
  cases fault with
  | refused cause place => exact absurd (Fault.refusal_refused _ _) hr
  | nullCharacter => rfl
  | unencodable gap => rfl

/-- **While the folders above a path are made, the disk refuses exactly what could be the path of a
file**: what could be has folders that could be. -/
theorem makeFolders_fault {d made : Disk} {p : Path} (hp : p.WellFormed) {fault : Fault}
    (h : d.makeFolders p = (made, some fault)) : fault.Refusal ↔ Nameable p.text := by
  by_cases hn : Nameable p.text
  · refine iff_of_true ?_ hn
    -- the fault is one of the folder itself, or one of a folder above it
    fun_induction makeFolders d p generalizing made fault with
    | case1 p made' hm => simp at h
    | case2 p path hm hnames =>
        obtain ⟨-, rfl⟩ : d = made ∧ Fault.refused .missing path = fault := by simpa using h
        exact Fault.refusal_refused _ _
    | case3 p path hm hnames above fault' habove ih =>
        obtain ⟨-, rfl⟩ : above = made ∧ fault' = fault := by simpa using h
        exact ih hp.parent habove (Path.nameable_parent hp hn)
    | case4 p path hm hnames above habove made' hmade ih => simp at h
    | case5 p path hm hnames above habove path' hmade ih =>
        obtain ⟨-, rfl⟩ : above = made ∧ Fault.refused .missing path' = fault := by simpa using h
        exact Fault.refusal_refused _ _
    | case6 p path hm hnames above habove fault' hmiss hmade ih =>
        obtain ⟨-, hs⟩ : above = made ∧ above.settled p.text fault' = some fault := by
          simpa using h
        exact (settled_fault hs).2 ((makeFolder_fault hmade).2 hn)
    | case7 p fault' hmiss hm =>
        obtain ⟨-, hs⟩ : d = made ∧ d.settled p.text fault' = some fault := by simpa using h
        exact (settled_fault hs).2 ((makeFolder_fault hm).2 hn)
  · refine iff_of_false (fun hr => ?_) hn
    -- the first folder that is tried is the path itself
    obtain ⟨fault', hm, hr'⟩ := makeFolders_of_not_nameable (d := d) hn
    obtain ⟨-, rfl⟩ : d = made ∧ fault' = fault := by simpa [hm] using h
    exact hr' hr

theorem writeFile_fault {d : Disk} {path : Text} {content : Text.Utf8.Octets} {fault : Fault}
    (h : d.writeFile path content = .error fault) : fault.Refusal ↔ Nameable path :=
  guarded_fault (map_eq_error_iff.1 h)

theorem readFile_fault {d : Disk} {path : Text} {fault : Fault}
    (h : d.readFile path = .error fault) : fault.Refusal ↔ Nameable path :=
  guarded_fault h

end Disk

end Tiered.Files
