import Mathlib
import Tiered.Proofs.Files.Growth

/-!
# Target — the location that a path is for

A path says by itself for which location it is: from the root or from the current folder, each name
leads one further on, and a double point one back.  Not every path leads there on every disk; but
what a path leads to on a disk is at its target (`locate_target`).
-/

namespace Tiered.Files.Disk

/-- One name further on from a location, whatever is there. -/
def follow (loc : Location) (name : Name) : Location :=
  if name = [point] then loc
  else if name = [point, point] then loc.dropLast
  else loc ++ [name]

/-- The location that a path is for. -/
def target (d : Disk) (p : Path) : Location := (stepsOf p.codes).foldl follow (d.start p.codes)

variable {d d' : Disk} {loc next : Location}

theorem step_follow {name : Name} (h : d.step loc name = .ok next) : next = follow loc name := by
  rw [follow]
  obtain ⟨-, ⟨rfl, rfl⟩ | ⟨rfl, rfl⟩ | ⟨hp, hpp, -, -, rfl⟩⟩ := step_eq_ok_iff.1 h
  · rw [if_pos rfl]
  · rw [if_neg (by decide), if_pos rfl]
  · rw [if_neg hp, if_neg hpp]

theorem walk_follow {names : List Name} (h : d.walk loc names = .ok next) :
    next = names.foldl follow loc := by
  induction names generalizing loc with
  | nil => exact (Except.ok.inj h).symm
  | cons name names ih =>
      obtain ⟨between, hs, hw⟩ := bind_eq_ok_iff.1 h
      rw [List.foldl_cons, ← step_follow hs]
      exact ih hw

/-- **What a path leads to is at its target.** -/
theorem locate_target {p : Path} (h : d.locate p.codes = .ok loc) : loc = d.target p :=
  walk_follow (locate_eq_ok_iff.1 h).2.2

/-- The target depends on the current folder alone. -/
theorem target_congr (h : d'.here = d.here) (p : Path) : d'.target p = d.target p := by
  rw [target, target, start, start, h]

end Tiered.Files.Disk
