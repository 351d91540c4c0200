import Mathlib
import Tiered.Proofs.Agree
import Tiered.Proofs.Files.Fault
import Tiered.Proofs.Store.Outcome

/-!
# Stray — failures that are not to use a file

A failure strays when it is neither a failure to use the environment file nor one to use the
snapshot file.  An operation on one of the files strays when a condition holds (`StraysWhen`): its
other failures are to use that file, at the path that was given, and what it fails by strays exactly
under the condition.  A fault of an access strays unless it is a refusal of the disk
(`straysWhen_failureOf`), and reading octets strays where they are garbled (`straysWhen_parse`).
-/

namespace Tiered

open Files

/-- The failure is neither to use the environment file nor to use the snapshot file. -/
def Failure.Stray (failure : Failure) : Prop :=
  ∀ path reason, failure ≠ .environmentFile path reason ∧ failure ≠ .snapshotFile path reason

/-- Failures that are both no failures to use a file are alike. -/
theorem Failure.Stray.alike {f f' : Failure} (h : f.Stray) (h' : f'.Stray) : f.Alike f' :=
  fun path reason => iff_of_false (h path reason).2 (h' path reason).2

namespace Store

/-- One of the two files. -/
def ObjectFile.Known (f : ObjectFile) : Prop := f = environmentFile ∨ f = snapshotFile

theorem known_environmentFile : environmentFile.Known := .inl rfl

theorem known_snapshotFile : snapshotFile.Known := .inr rfl

theorem not_stray_failure {f : ObjectFile} (hf : f.Known) (path : Path) (reason : Value) :
    ¬ (f.failure path reason).Stray := by
  rcases hf with rfl | rfl
  · exact fun h => (h path reason).1 rfl
  · exact fun h => (h path reason).2 rfl

theorem stray_ofRefusal (refusal : Json.Refusal) : (Failure.ofRefusal refusal).Stray := by
  cases refusal <;> simp [Failure.Stray, Failure.ofRefusal]

/-- What an operation on a file at a path comes to strays exactly under a condition, and is
otherwise, if it is a failure, one to use that file at that path. -/
structure StraysWhen {α : Type} (f : ObjectFile) (path : Path) (result : Except Failure α)
    (condition : Prop) : Prop where
  told : ∀ failure, result = .error failure →
    (∃ reason, failure = f.failure path reason) ∨ failure.Stray
  stray : (∃ failure, result = .error failure ∧ failure.Stray) ↔ condition

section StraysWhen

variable {α β : Type} {f : ObjectFile} {path : Path} {result : Except Failure α} {p q : Prop}

theorem StraysWhen.congr (h : StraysWhen f path result p) (hpq : p ↔ q) :
    StraysWhen f path result q :=
  ⟨h.told, h.stray.trans hpq⟩

theorem straysWhen_ok (a : α) (hp : ¬ p) : StraysWhen f path (.ok a) p :=
  ⟨fun _ h => by simp at h, iff_of_false (by simp) hp⟩

theorem straysWhen_told (hf : f.Known) (reason : Value) (hp : ¬ p) :
    StraysWhen f path (.error (f.failure path reason) : Except Failure α) p := by
  refine ⟨fun failure h => .inl ⟨reason, (Except.error.inj h).symm⟩, iff_of_false ?_ hp⟩
  rintro ⟨failure, h, hs⟩
  exact not_stray_failure hf path reason (Except.error.inj h ▸ hs)

theorem straysWhen_stray {failure : Failure} (h : failure.Stray) (hp : p) :
    StraysWhen f path (.error failure : Except Failure α) p := by
  refine ⟨fun failure' h' => .inr ?_, iff_of_true ⟨failure, rfl, h⟩ hp⟩
  rwa [← Except.error.inj h']

/-- A fault of an access strays unless the disk refused. -/
theorem straysWhen_failureOf (hf : f.Known) {fault : Fault} (hp : p ↔ ¬ fault.Refusal) :
    StraysWhen f path (.error (f.failureOf path fault) : Except Failure α) p := by
  cases fault with
  | refused cause place =>
      exact straysWhen_told hf _ (hp.not.2 (not_not.2 (Fault.refusal_refused _ _)))
  | nullCharacter =>
      exact straysWhen_stray (by simp [Failure.Stray, ObjectFile.failureOf])
        (hp.2 Fault.not_refusal_null)
  | unencodable gap =>
      exact straysWhen_stray (by simp [Failure.Stray, ObjectFile.failureOf])
        (hp.2 (Fault.not_refusal_unencodable gap))

theorem StraysWhen.map (h : StraysWhen f path result p) (g : α → β) :
    StraysWhen f path (result.map g) p := by
  cases result with
  | ok a => exact straysWhen_ok _ (h.stray.not.1 (by simp))
  | error failure => exact ⟨fun e he => h.told e (by simpa [Except.map] using he), by
      rw [← h.stray]
      simp [Except.map]⟩

/-- What is done with a result that strays, and does not stray itself, strays where it did. -/
theorem StraysWhen.bind (h : StraysWhen f path result p) {g : α → Except Failure β}
    (hg : ∀ a, StraysWhen f path (g a) False) : StraysWhen f path (result.bind g) p := by
  cases result with
  | ok a => exact (hg a).congr (iff_of_false id (h.stray.not.1 (by simp)))
  | error failure => exact ⟨fun e he => h.told e (by simpa [Except.bind] using he), by
      rw [← h.stray]
      simp [Except.bind]⟩

/-- The failures are to use the file at the path exactly where nothing strays. -/
theorem StraysWhen.told_iff (hf : f.Known) (h : StraysWhen f path result p) :
    (∀ failure, result = .error failure → ∃ reason, failure = f.failure path reason) ↔ ¬ p := by
  rw [← h.stray]
  constructor
  · rintro htold ⟨failure, hr, hs⟩
    obtain ⟨reason, rfl⟩ := htold failure hr
    exact not_stray_failure hf path reason hs
  · intro hn failure hr
    exact (h.told failure hr).resolve_right fun hs => hn ⟨failure, hr, hs⟩

end StraysWhen

/-! ### Reading octets -/

/-- Octets that are not UTF-8, or a JSON text in which the reader comes upon a whole number with too
many digits. -/
def Garbled (octets : Text.Utf8.Octets) : Prop :=
  (∃ fault, Text.Utf8.decode octets = .error fault) ∨
    ∃ cs digits, Text.Utf8.decode octets = .ok cs ∧
      Json.read (Text.Lines.unify cs) = .error (.overlong digits)

theorem straysWhen_parse {f : ObjectFile} (hf : f.Known) (path : Path) (cs : List Char) :
    StraysWhen f path (f.parse path cs) (∃ digits, Json.read cs = .error (.overlong digits)) := by
  rw [ObjectFile.parse]
  split
  · next h => exact straysWhen_ok _ (by simp [h])
  · next h => exact straysWhen_told hf _ (by simp [h])
  · next h => exact straysWhen_told hf _ (by simp [h])
  · next digits h =>
    exact straysWhen_stray (by simp [Failure.Stray]) ⟨digits, h⟩

theorem textOf_eq (octets : Text.Utf8.Octets) : textOf octets =
    match Text.Utf8.decode octets with
    | .ok cs => .ok (Text.Lines.unify cs)
    | .error fault => .error (.encoding fault) := by
  rw [textOf, decode]
  cases Text.Utf8.decode octets <;> rfl

/-- **Reading the octets of a file strays exactly where they are garbled.** -/
theorem straysWhen_read {f : ObjectFile} (hf : f.Known) (path : Path)
    (octets : Text.Utf8.Octets) :
    StraysWhen f path ((textOf octets).bind (f.parse path)) (Garbled octets) := by
  rw [textOf_eq]
  cases hd : Text.Utf8.decode octets with
  | error fault =>
      exact straysWhen_stray (by simp [Failure.Stray]) (.inl ⟨fault, hd⟩)
  | ok cs =>
      refine (straysWhen_parse hf path (Text.Lines.unify cs)).congr ?_
      simp [Garbled, hd]

end Store

end Tiered
