import Mathlib
import Tiered.Proofs.Json.Written
import Tiered.Proofs.Store.Saving

/-!
# Loading — how reading the two files fails

Reading the environment file or the snapshot file fails with a failure to use that file, but for a
path with a name too long, for garbled octets, and for an environment file that is to be made at a
path that no file can have (`straysWhen_loadEnvironment`, `straysWhen_loadSnapshot`).
-/

namespace Tiered

namespace Json

/-! ### Blank texts -/

theorem isDigit_of_isBlank {c : Char} (h : Text.isBlank c = true) :
    Number.Decimal.isDigit c = false := by
  by_contra hd
  simp [Number.Decimal.isDigit, Char.le_def, UInt32.le_iff_toNat_le] at hd
  simp [Text.isBlank, Text.isBlankNumber] at h
  omega

theorem value_of_isBlank (fuel : Nat) {c : Char} (h : Text.isBlank c = true) (rest : List Char) :
    value (fuel + 1) (c :: rest) = number (c :: rest) := by
  rw [value]
  all_goals
    rintro rest' he
    obtain ⟨rfl, -⟩ := List.cons.inj he
    exact absurd h (by decide)

theorem number_of_isBlank {c : Char} (h : Text.isBlank c = true) (rest : List Char) :
    number (c :: rest) = .error (.malformed .expectedValue (c :: rest)) := by
  have hminus : c ≠ '-' := by rintro rfl; exact absurd h (by decide)
  have hzero : c ≠ '0' := by rintro rfl; exact absurd h (by decide)
  have hwhole : wholeDigits? (c :: rest) = none := by
    simp [wholeDigits?, Number.Reading.digits, isDigit_of_isBlank h, hzero]
  delta number
  simp [hminus, hwhole]

/-- In a blank text the reader misses a value. -/
theorem document_of_allBlank {cs : List Char} (h : Text.allBlank cs = true) :
    ∃ rest, document cs = .error (.malformed .expectedValue rest) := by
  have hskip : Text.allBlank (skipSpace cs) = true :=
    List.all_eq_true.2 fun c hc => List.all_eq_true.1 h c (List.dropWhile_subset _ hc)
  have hvalue : value (fuelFor cs) (skipSpace cs) =
      .error (.malformed .expectedValue (skipSpace cs)) := by
    rw [fuelFor]
    cases hs : skipSpace cs with
    | nil => rfl
    | cons c rest =>
        rw [hs] at hskip
        have hc := List.all_eq_true.1 hskip c List.mem_cons_self
        rw [value_of_isBlank _ hc, number_of_isBlank hc]
  refine ⟨skipSpace cs, ?_⟩
  rw [document.eq_def]
  split
  · exact absurd (List.all_eq_true.1 h _ List.mem_cons_self) (by decide)
  · rw [hvalue]
    rfl

theorem read_of_allBlank {cs : List Char} (h : Text.allBlank cs = true) (digits : Nat) :
    read cs ≠ .error (.overlong digits) := by
  obtain ⟨rest, hd⟩ := document_of_allBlank h
  rw [read, hd]
  simp

end Json

namespace Store

open Files

/-- Reading a file at a path strays: a name in the path is too long to ask for, or the file is
garbled. -/
def ReadsAstray (path : Path) (d : Disk) : Prop :=
  (∃ fault, d.exists? path.text = .error fault) ∨
    ∃ octets, d.readFile path.text = .ok octets ∧ Garbled octets

/-- Making an environment file strays: there is none, and the folders above it are no obstacle, but
no file can have the path. -/
def CreatesAstray (path : Path) (createMissing : Bool) (d : Disk) : Prop :=
  createMissing = true ∧ d.exists? path.text = .ok false ∧ ¬ d.RefusesFolder path ∧
    ¬ Nameable path.text

theorem not_readsAstray_of_missing {path : Path} {d : Disk}
    (h : d.exists? path.text = .ok false) : ¬ ReadsAstray path d := by
  rintro (⟨fault, hf⟩ | ⟨octets, ho, -⟩)
  · simp [h] at hf
  · simp [Disk.exists?_of_readFile ho] at h

section Found

variable {path : Path} {d : Disk}

/-- What is there strays exactly where its octets are garbled. -/
theorem readsAstray_iff_garbled (h : d.exists? path.text = .ok true)
    {octets : Text.Utf8.Octets} (ho : d.readFile path.text = .ok octets) :
    ReadsAstray path d ↔ Garbled octets := by
  simp [ReadsAstray, h, ho]

theorem not_readsAstray_of_refused (h : d.exists? path.text = .ok true) {fault : Fault}
    (hr : d.readFile path.text = .error fault) : ¬ ReadsAstray path d ∧ fault.Refusal := by
  refine ⟨by simp [ReadsAstray, h, hr], ?_⟩
  exact (Disk.readFile_fault hr).2 (Disk.nameable_of_exists? h)

end Found

/-- **Making an environment file strays exactly where no file can have the path and the folders
above it are no obstacle.** -/
theorem straysWhen_createEnvironments {path : Path} (hp : path.WellFormed) (d : Disk) :
    StraysWhen environmentFile path (createEnvironments path d).result
      (¬ d.RefusesFolder path ∧ ¬ Nameable path.text) := by
  have hf := known_environmentFile
  rw [createEnvironments_eq]
  rcases hm : d.makeFolders path.parent with ⟨made, _ | fault⟩
  · have href := Disk.not_refusesFolder_of_made hm
    dsimp only
    cases hw : made.writeFile path.text (Text.Utf8.encode emptyObject) with
    | error fault =>
        refine straysWhen_failureOf hf ?_
        rw [and_iff_right href, Disk.writeFile_fault hw]
    | ok written => exact straysWhen_ok _ fun h => h.2 (Disk.writeFile_eq_ok_iff.1 hw).1
  · refine straysWhen_failureOf hf ?_
    rw [Disk.refusesFolder_iff_of_fault hm]
    refine and_iff_left_of_imp fun hr hn => hr ?_
    exact (Disk.makeFolders_fault hp.parent hm).2 (Path.nameable_parent hp hn)

/-- **Reading the named environments strays exactly where reading or making the file does.** -/
theorem straysWhen_readEnvironments {path : Path} (hp : path.WellFormed) (createMissing : Bool)
    (d : Disk) : StraysWhen environmentFile path (readEnvironments path createMissing d).result
      (ReadsAstray path d ∨ CreatesAstray path createMissing d) := by
  have hf := known_environmentFile
  rw [readEnvironments_eq]
  cases he : d.exists? path.text with
  | error fault => exact straysWhen_stray (by simp [Failure.Stray]) (.inl (.inl ⟨fault, he⟩))
  | ok found =>
      cases found with
      | true =>
          -- what is there is not made
          have hcreate : ¬ CreatesAstray path createMissing d := by simp [CreatesAstray, he]
          dsimp only
          cases hr : d.readFile path.text with
          | error fault =>
              obtain ⟨hn, hrefusal⟩ := not_readsAstray_of_refused he hr
              refine straysWhen_failureOf hf (iff_of_false ?_ (not_not.2 hrefusal))
              exact not_or.2 ⟨hn, hcreate⟩
          | ok octets =>
              refine (straysWhen_read hf path octets).congr ?_
              rw [or_iff_left hcreate, readsAstray_iff_garbled he hr]
      | false =>
          have hn := not_readsAstray_of_missing he
          dsimp only
          split_ifs with hc
          · refine ((straysWhen_createEnvironments hp d).map _).congr ?_
            rw [or_iff_right hn]
            simp [CreatesAstray, hc, he]
          · exact straysWhen_ok _ (not_or.2 ⟨hn, fun h => hc h.1⟩)

theorem straysWhen_selected (shownAs : Text) (name : Value) (environments : Entries) :
    StraysWhen environmentFile (Path.ofText shownAs) (selected shownAs name environments)
      False := by
  rw [selected]
  split
  · exact straysWhen_ok _ id
  · exact straysWhen_ok _ id
  · exact straysWhen_told known_environmentFile _ id

/-- **Loading one environment strays exactly where reading or making the file does.** -/
theorem straysWhen_loadEnvironment (shownAs name : Text) (createMissing : Bool) (d : Disk) :
    StraysWhen environmentFile (Path.ofText shownAs)
      (loadEnvironment shownAs (.text name) createMissing d).result
      (ReadsAstray (Path.ofText shownAs) d ∨
        CreatesAstray (Path.ofText shownAs) createMissing d) := by
  have hread := straysWhen_readEnvironments (Path.wellFormed_ofCodes shownAs.codes) createMissing d
  rw [loadEnvironment_eq]
  have hresult : StraysWhen environmentFile (Path.ofText shownAs)
      ((readEnvironments (Path.ofText shownAs) createMissing d).result.bind
        (selected shownAs (.text name))) _ :=
    hread.bind (straysWhen_selected shownAs (.text name))
  dsimp only
  split <;> next h => rwa [h] at hresult

/-- **Loading a snapshot strays exactly where reading the file does.** -/
theorem straysWhen_loadSnapshot (path : Path) (d : Disk) :
    StraysWhen snapshotFile path (loadSnapshot path d).result (ReadsAstray path d) := by
  have hf := known_snapshotFile
  rw [loadSnapshot_eq]
  cases he : d.exists? path.text with
  | error fault => exact straysWhen_stray (by simp [Failure.Stray]) (.inl ⟨fault, he⟩)
  | ok found =>
      cases found with
      | false => exact straysWhen_ok _ (not_readsAstray_of_missing he)
      | true =>
          dsimp only
          cases hr : d.readFile path.text with
          | error fault =>
              obtain ⟨hn, hrefusal⟩ := not_readsAstray_of_refused he hr
              exact straysWhen_failureOf hf (iff_of_false hn (not_not.2 hrefusal))
          | ok octets =>
              have hread := (straysWhen_read hf path octets).congr
                (readsAstray_iff_garbled he hr).symm
              dsimp only
              cases ht : textOf octets with
              | error failure => simpa [ht, Except.bind] using hread
              | ok cs =>
                  replace hread : StraysWhen snapshotFile path (snapshotFile.parse path cs)
                      (ReadsAstray path d) := by
                    simpa [ht, Except.bind] using hread
                  dsimp only
                  split_ifs with hb
                  -- in a blank text the reader comes upon no number
                  · refine straysWhen_ok _ fun hastray => ?_
                    rw [← hread.stray, (straysWhen_parse hf path cs).stray] at hastray
                    obtain ⟨digits, hd⟩ := hastray
                    exact Json.read_of_allBlank hb digits hd
                  · split <;> next h => rwa [h] at hread

end Store

end Tiered
