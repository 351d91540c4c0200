import Mathlib
import Tiered.Store.Environment
import Tiered.Store.Snapshot

/-!
# Outcome — what the operations on the two files come to

Every operation on the environment file and on the snapshot file as one case distinction on what
the disk and the readers say: the result, the disk that is left and the events, for each case.
-/

namespace Tiered.Store

open Files

/-- What a fault becomes in an access to a file: a refusal is a failure to use the file, and a path
that no file can have stays a fault. -/
def ObjectFile.failureOf (f : ObjectFile) (path : Path) (fault : Fault) : Failure :=
  match fault with
  | .refused cause place => f.refuse path (Fault.refused cause place).message
  | fault => .files fault

/-- The text of a file's octets, with every line end as a line feed. -/
def textOf (octets : Text.Utf8.Octets) : Except Failure (List Char) :=
  (decode octets).map Text.Lines.unify

section Access

variable {α : Type} (f : ObjectFile) (path : Path) {a : Action Disk α} {d d' : Disk}
  {events : List Log.Event}

theorem access_of_ok {x : α} (h : a d = ⟨.ok x, d', events⟩) :
    f.access path a d = ⟨.ok x, d', events⟩ := by
  simp only [ObjectFile.access, h]

theorem access_of_fault {fault : Fault} (h : a d = ⟨.error (.files fault), d', events⟩) :
    f.access path a d = ⟨.error (f.failureOf path fault), d', events⟩ := by
  cases fault <;> simp only [ObjectFile.access, ObjectFile.failureOf, h]

theorem access_of_other {failure : Failure} (h : a d = ⟨.error failure, d', events⟩)
    (hf : ∀ fault, failure ≠ .files fault) :
    f.access path a d = ⟨.error failure, d', events⟩ := by
  simp only [ObjectFile.access, h]
  split
  · next he => exact absurd (Except.error.inj he) (hf _)
  · rfl

end Access

theorem access_readText (f : ObjectFile) (path : Path) (d : Disk) :
    f.access path (readText path) d = match d.readFile path.text with
      | .error fault => ⟨.error (f.failureOf path fault), d, []⟩
      | .ok octets => ⟨textOf octets, d, []⟩ := by
  cases hread : d.readFile path.text with
  | error fault =>
      have h : readText path d = ⟨.error (.files fault), d, []⟩ := by
        simp only [readText, Action.bind_apply, ask, hread]
      exact access_of_fault f path h
  | ok octets =>
      have h : readText path d = ⟨textOf octets, d, []⟩ := by
        simp only [readText, Action.bind_apply, ask, hread, Action.lift_apply, textOf]
        cases decode octets <;> rfl
      dsimp only
      cases ht : textOf octets with
      | ok cs => exact access_of_ok f path (h.trans (by rw [ht]))
      | error failure =>
          refine access_of_other f path (h.trans (by rw [ht])) fun fault => ?_
          -- octets that are no text are no fault of the disk
          rintro rfl
          simp only [textOf, decode] at ht
          split at ht <;> simp [Except.map] at ht

/-- What writing a text comes to: the folders above the file are made, and the text, if it is one,
is its content. -/
def writingOutcome (f : ObjectFile) (path : Path) (text : Except Failure (List Char)) (d : Disk) :
    Outcome Disk Unit :=
  match d.makeFolders path.parent with
  | (made, some fault) => ⟨.error (f.failureOf path fault), made, []⟩
  | (made, none) => match text with
    | .error failure => ⟨.error failure, made, []⟩
    | .ok cs => match made.writeFile path.text (Text.Utf8.encode cs) with
      | .error fault => ⟨.error (f.failureOf path fault), made, []⟩
      | .ok written => ⟨.ok (), written, []⟩

theorem access_writing (f : ObjectFile) (path : Path) {text : Except Failure (List Char)}
    (ht : ∀ failure, text = .error failure → ∀ fault, failure ≠ .files fault) (d : Disk) :
    (f.access path do
      makeFolders path.parent
      let cs ← Action.lift text
      writeFile path cs) d = writingOutcome f path text d := by
  rw [writingOutcome]
  cases hm : d.makeFolders path.parent with
  | mk made fault? =>
      cases fault? with
      | some fault =>
          refine access_of_fault f path ?_
          simp only [Action.bind_apply, makeFolders, hm]
      | none =>
          cases text with
          | error failure =>
              refine access_of_other f path ?_ (ht failure rfl)
              simp only [Action.bind_apply, makeFolders, hm, Action.lift_apply, List.append_nil]
          | ok cs =>
              dsimp only
              cases hw : made.writeFile path.text (Text.Utf8.encode cs) with
              | error fault =>
                  refine access_of_fault f path ?_
                  simp only [Action.bind_apply, makeFolders, hm, Action.lift_apply, writeFile, hw,
                    List.append_nil]
              | ok written =>
                  refine access_of_ok f path ?_
                  simp only [Action.bind_apply, makeFolders, hm, Action.lift_apply, writeFile, hw,
                    List.append_nil]

/-! ### The snapshot file -/

/-- The reports of the entries that a file cannot keep. -/
def skipReports (es : Entries) : List Log.Event :=
  es.skipped.map fun e => .valueSkipped e.1 e.2.kind

/-- What loading the snapshot file comes to. -/
theorem loadSnapshot_eq (path : Path) (d : Disk) :
    loadSnapshot path d = match d.exists? path.text with
      | .error fault => ⟨.error (.files fault), d, []⟩
      | .ok false => ⟨.ok [], d, []⟩
      | .ok true => match d.readFile path.text with
        | .error fault => ⟨.error (snapshotFile.failureOf path fault), d, []⟩
        | .ok octets => match textOf octets with
          | .error failure => ⟨.error failure, d, []⟩
          | .ok cs => if Text.allBlank cs then ⟨.ok [], d, []⟩
            else match snapshotFile.parse path cs with
              | .error failure => ⟨.error failure, d, []⟩
              | .ok es => ⟨.ok es, d, [.snapshotLoaded path.text es.length]⟩ := by
  simp only [loadSnapshot, Action.bind_apply, exists?, ask]
  cases d.exists? path.text with
  | error fault => rfl
  | ok found =>
      cases found with
      | false => rfl
      | true =>
          simp only [if_true, Action.bind_apply, access_readText]
          cases d.readFile path.text with
          | error fault => rfl
          | ok octets =>
              simp only
              cases textOf octets with
              | error failure => rfl
              | ok cs =>
                  simp only
                  split_ifs
                  · rfl
                  · simp only [Action.bind_apply, Action.lift_apply, Action.emit_apply]
                    cases snapshotFile.parse path cs <;> rfl

/-- Loading leaves the disk as it is. -/
theorem loadSnapshot_state (path : Path) (d : Disk) : (loadSnapshot path d).state = d := by
  rw [loadSnapshot_eq]
  rcases d.exists? path.text with fault | found
  · rfl
  cases found with
  | false => rfl
  | true =>
      rcases d.readFile path.text with fault | octets
      · rfl
      dsimp only
      rcases textOf octets with failure | cs
      · rfl
      dsimp only
      split_ifs
      · rfl
      · cases snapshotFile.parse path cs <;> rfl

theorem snapshotText_ne_files {es : Entries} {failure : Failure}
    (h : snapshotText es = .error failure) (fault : Fault) : failure ≠ .files fault := by
  rintro rfl
  simp only [snapshotText] at h
  split at h
  · exact absurd h (by simp)
  · next refusal _ => cases refusal <;> simp [Failure.ofRefusal] at h

/-- What saving the snapshot file comes to. -/
theorem saveSnapshot_eq (path : Path) (es : Entries) (d : Disk) :
    saveSnapshot path es d = match d.makeFolders path.parent with
      | (made, some fault) => ⟨.error (snapshotFile.failureOf path fault), made, skipReports es⟩
      | (made, none) => match snapshotText es.keep with
        | .error failure => ⟨.error failure, made, skipReports es⟩
        | .ok cs => match made.writeFile path.text (Text.Utf8.encode cs) with
          | .error fault => ⟨.error (snapshotFile.failureOf path fault), made, skipReports es⟩
          | .ok written => ⟨.ok es.keep, written,
              skipReports es ++ [.snapshotSaved path.text es.keep.length]⟩ := by
  have htext : ∀ failure, snapshotText es.keep = .error failure → ∀ fault, failure ≠ .files fault :=
    fun _ => snapshotText_ne_files
  have hwriting := access_writing snapshotFile path htext d
  simp only [saveSnapshot, keepSerializable, Action.bind_apply, Action.emitAll_apply,
    Action.pure_apply] at hwriting ⊢
  rw [hwriting, writingOutcome]
  rcases d.makeFolders path.parent with ⟨made, _ | fault⟩
  · cases snapshotText es.keep with
    | error failure => simp [skipReports]
    | ok cs =>
        dsimp only
        cases made.writeFile path.text (Text.Utf8.encode cs) <;> simp [skipReports]
  · simp [skipReports]

/-! ### The environment file -/

/-- What making an environment file comes to. -/
theorem createEnvironments_eq (path : Path) (d : Disk) :
    createEnvironments path d = match d.makeFolders path.parent with
      | (made, some fault) => ⟨.error (environmentFile.failureOf path fault), made, []⟩
      | (made, none) => match made.writeFile path.text (Text.Utf8.encode emptyObject) with
        | .error fault => ⟨.error (environmentFile.failureOf path fault), made, []⟩
        | .ok written => ⟨.ok (), written, [.environmentCreated path.text]⟩ := by
  have hcreate : createEnvironments path d = (environmentFile.access path (do
      makeFolders path.parent
      let cs ← Action.lift (.ok emptyObject)
      writeFile path cs) >>= fun _ => Action.emit (.environmentCreated path.text)) d := rfl
  rw [hcreate, Action.bind_apply, access_writing environmentFile path (by simp), writingOutcome]
  rcases d.makeFolders path.parent with ⟨made, _ | fault⟩
  · dsimp only
    rcases made.writeFile path.text (Text.Utf8.encode emptyObject) with fault | written <;> rfl
  · rfl

/-- What reading the named environments comes to. -/
theorem readEnvironments_eq (path : Path) (createMissing : Bool) (d : Disk) :
    readEnvironments path createMissing d = match d.exists? path.text with
      | .error fault => ⟨.error (.files fault), d, []⟩
      | .ok true => match d.readFile path.text with
        | .error fault => ⟨.error (environmentFile.failureOf path fault), d, []⟩
        | .ok octets => ⟨(textOf octets).bind (environmentFile.parse path), d, []⟩
      | .ok false =>
        if createMissing then
          let made := createEnvironments path d
          ⟨made.result.map fun _ => [], made.state, made.events⟩
        else ⟨.ok [], d, []⟩ := by
  simp only [readEnvironments, Action.bind_apply, exists?, ask]
  cases d.exists? path.text with
  | error fault => rfl
  | ok found =>
      cases found with
      | true =>
          simp only [if_true, Action.bind_apply, access_readText]
          cases d.readFile path.text with
          | error fault => rfl
          | ok octets => cases ht : textOf octets <;> simp [ht, Except.bind]
      | false =>
          cases createMissing with
          | false => rfl
          | true =>
              simp only [Bool.false_eq_true, if_false, if_true, Action.bind_apply,
                Action.pure_apply]
              cases hr : (createEnvironments path d).result <;> simp [Except.map]

/-- The variables of one of the environments. -/
def selected (shownAs : Text) (name : Value) (environments : Entries) :
    Except Failure Entries :=
  match environments.get? name with
  | none => .ok []
  | some (.table entries) => .ok entries
  | some _ => .error (environmentFile.refuse (Path.ofText shownAs)
      ("environment '" ++ Failure.plain name ++ "' must be a JSON object"))

/-- What loading one environment comes to. -/
theorem loadEnvironment_eq (shownAs : Text) (name : Text) (createMissing : Bool) (d : Disk) :
    loadEnvironment shownAs (.text name) createMissing d =
      let read := readEnvironments (Path.ofText shownAs) createMissing d
      match read.result.bind (selected shownAs (.text name)) with
      | .error failure => ⟨.error failure, read.state, read.events⟩
      | .ok entries => ⟨.ok entries, read.state,
          read.events ++ [.environmentLoaded shownAs (.text name) entries.length]⟩ := by
  simp only [loadEnvironment, Action.bind_apply, Action.lift_apply, Resolver.checkKey,
    Value.unhashable?_text]
  cases (readEnvironments (Path.ofText shownAs) createMissing d).result with
  | error failure => rfl
  | ok environments =>
      simp only [Except.bind, selected]
      cases environments.get? (.text name) with
      | none => simp [Action.bind_apply]
      | some v => cases v <;> simp [Action.bind_apply]

end Tiered.Store
