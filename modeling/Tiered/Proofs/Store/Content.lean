import Mathlib
import Tiered.Proofs.Files.Tree
import Tiered.Proofs.Json.Regular
import Tiered.Proofs.Store.Loading
import Tiered.Proofs.Store.RoundTrip

/-!
# Content — the tables that files hold

A location of a disk holds a table: the one that a file there is read as, and the empty one where
there is no such file (`objectAt`).  On a tree, loading gives the table at the location of the path
and changes no table, and saving changes the table there to what is kept, with tuples turned into
lists, and no other (`loadEnvironment_content`, `loadSnapshot_content`, `saveSnapshot_content`).
What fails has failed to use a file (`Failure.OfFile`).
-/

namespace Tiered

open Files

/-- The failure is to use a file: a folder or a file could not be used, or the file does not hold
what it should. -/
def Failure.OfFile : Failure → Prop
  | .environmentFile _ _ | .snapshotFile _ _ | .files _ | .encoding _ | .overlong (some _) => True
  | _ => False

namespace Store

/-- The table that octets are read as; octets that are not read as one hold no entries. -/
def objectIn (octets : Text.Utf8.Octets) : Entries :=
  match textOf octets with
  | .error _ => []
  | .ok cs => match Json.read cs with
    | .ok (.table es) => es
    | _ => []

/-- The table that a location holds. -/
@[irreducible]
def objectAt (d : Disk) (loc : Location) : Entries :=
  match d.node? loc with
  | some (.file octets) => objectIn octets
  | _ => []

theorem objectIn_of_read {octets : Text.Utf8.Octets} {cs : List Char} {es : Entries}
    (ht : textOf octets = .ok cs) (hr : Json.read cs = .ok (.table es)) : objectIn octets = es := by
  simp only [objectIn, ht, hr]

theorem objectAt_of_file {d : Disk} {loc : Location} {octets : Text.Utf8.Octets}
    (h : d.node? loc = some (.file octets)) : objectAt d loc = objectIn octets := by
  simp only [objectAt, h]

theorem objectAt_of_missing {d : Disk} {loc : Location} (h : d.node? loc = none) :
    objectAt d loc = [] := by
  simp only [objectAt, h]

theorem regular_objectIn (octets : Text.Utf8.Octets) : (objectIn octets).Regular := by
  rw [objectIn]
  split
  · exact Entries.regular_nil
  · split
    · next h => exact Json.regular_of_read h
    · exact Entries.regular_nil

/-- **What a location holds is regular.** -/
theorem regular_objectAt (d : Disk) (loc : Location) : (objectAt d loc).Regular := by
  rw [objectAt]
  split
  · exact regular_objectIn _
  · exact Entries.regular_nil

/-- More folders change no table. -/
theorem objectAt_addsFolders {d d' : Disk} (h : d.AddsFolders d') : objectAt d' = objectAt d := by
  funext loc
  rcases h.node loc with he | ⟨hn, hf⟩
  · rw [objectAt, objectAt, he]
  · rw [objectAt, objectAt, hn, hf]

/-- A file changes the table at its location and no other. -/
theorem objectAt_put {d : Disk} {loc : Location} (h : d.isFolderAt loc = false)
    (octets : Text.Utf8.Octets) :
    objectAt (d.put loc (.file octets)) =
      Function.update (objectAt d) loc (objectIn octets) := by
  funext other
  rw [objectAt, Disk.node?_put d (Disk.ne_root_of_not_folder h)]
  split_ifs with he
  · rw [he, Function.update_self]
  · rw [Function.update_of_ne he, objectAt]

/-- The tree is left a tree with the same current folder. -/
structure KeepsTree (d d' : Disk) : Prop where
  here : d'.here = d.here
  tree : d'.Tree

theorem KeepsTree.location {d d' : Disk} (h : KeepsTree d d') (p : Path) :
    d'.location p = d.location p := by
  rw [Disk.location, Disk.location, Disk.base, Disk.base, h.here]

variable {d d' : Disk} {path : Path}

/-- **Folders and a file in them change the table at the file's location and no other.** -/
theorem written_content (ht : d.Tree) (hp : path.Direct) {made written : Disk}
    {octets : Text.Utf8.Octets} (hm : d.makeFolders path.parent = (made, none))
    (hw : made.writeFile path.text octets = .ok written) :
    KeepsTree d written ∧
      objectAt written = Function.update (objectAt d) (d.location path) (objectIn octets) := by
  have hadds := (Disk.makesWay_makeFolders d path.parent).toAddsFolders
  have htree := ht.makeFolders hp.parent
  rw [hm] at hadds htree
  have hmade : KeepsTree d made := ⟨hadds.here, htree⟩
  obtain ⟨rfl, hfree, hwritten⟩ := htree.writeFile hp hw
  refine ⟨⟨hadds.here, hwritten⟩, ?_⟩
  rw [objectAt_put hfree, objectAt_addsFolders hadds, hmade.location]

/-- What is found at a path where nothing is there holds no entries. -/
theorem objectAt_of_not_found (ht : d.Tree) (hp : path.Direct)
    (h : d.exists? path.text = .ok false) : objectAt d (d.location path) = [] := by
  obtain ⟨node, hf, hn⟩ := map_eq_ok_iff.1 h
  rw [Option.isSome_eq_false_iff, Option.isNone_iff_eq_none] at hn
  exact objectAt_of_missing ((ht.find_eq hp hf).symm.trans hn)

/-! ### Undisturbed results -/

/-- The result is no failure to use a file. -/
def Undisturbed {α : Type} (result : Except Failure α) : Prop :=
  ∀ failure, result = .error failure → ¬ failure.OfFile

theorem not_undisturbed {α : Type} {failure : Failure} (h : failure.OfFile) :
    ¬ Undisturbed (.error failure : Except Failure α) :=
  fun hu => hu failure rfl h

theorem undisturbed_map_iff {α β : Type} {result : Except Failure α} {f : α → β} :
    Undisturbed (result.map f) ↔ Undisturbed result := by
  simp only [Undisturbed, map_eq_error_iff]

theorem undisturbed_bind_pure_iff {σ α β : Type} {a : Action σ α} {f : α → β} {s : σ} :
    Undisturbed ((a >>= fun x => pure (f x)) s).result ↔ Undisturbed (a s).result := by
  rw [Action.bind_pure_apply]
  exact undisturbed_map_iff

theorem ofFile_failure {f : ObjectFile} (hf : f.Known) (path : Path) (reason : Value) :
    (f.failure path reason).OfFile := by
  rcases hf with rfl | rfl <;> trivial

theorem ofFile_failureOf {f : ObjectFile} (hf : f.Known) (path : Path) (fault : Fault) :
    (f.failureOf path fault).OfFile := by
  cases fault with
  | refused cause place => exact ofFile_failure hf path _
  | nullCharacter => trivial
  | unencodable gap => trivial

theorem ofFile_textOf {octets : Text.Utf8.Octets} {failure : Failure}
    (h : textOf octets = .error failure) : failure.OfFile := by
  rw [textOf_eq] at h
  split at h
  · exact absurd h (by simp)
  · obtain rfl := Except.error.inj h
    trivial

theorem exists_parse {f : ObjectFile} (hf : f.Known) {cs : List Char}
    (h : Undisturbed (f.parse path cs)) :
    ∃ es, f.parse path cs = .ok es ∧ Json.read cs = .ok (.table es) := by
  rw [ObjectFile.parse] at h ⊢
  split at h
  · next es hr => exact ⟨es, rfl, hr⟩
  · exact absurd h (not_undisturbed (ofFile_failure hf path _))
  · exact absurd h (not_undisturbed (ofFile_failure hf path _))
  · exact absurd h (not_undisturbed trivial)

/-- A blank text is read as no table. -/
theorem objectIn_of_allBlank {octets : Text.Utf8.Octets} {cs : List Char}
    (ht : textOf octets = .ok cs) (hb : Text.allBlank cs = true) : objectIn octets = [] := by
  obtain ⟨rest, hd⟩ := Json.document_of_allBlank hb
  simp only [objectIn, ht, Json.read, hd]

theorem objectIn_emptyObject : objectIn (Text.Utf8.encode emptyObject) = [] := rfl

/-! ### Loading and saving -/

/-- **Loading a snapshot gives the table at its location.** -/
theorem loadSnapshot_content (ht : d.Tree) (hp : path.Direct)
    (h : Undisturbed (loadSnapshot path d).result) :
    (loadSnapshot path d).result = .ok (objectAt d (d.location path)) ∧
      (loadSnapshot path d).state = d := by
  rw [loadSnapshot_eq] at h ⊢
  rcases he : d.exists? path.text with fault | found
  · rw [he] at h
    exact absurd h (not_undisturbed trivial)
  cases found with
  | false =>
      rw [objectAt_of_not_found ht hp he]
      exact ⟨rfl, rfl⟩
  | true =>
      rcases hr : d.readFile path.text with fault | octets
      · rw [he, hr] at h
        exact absurd h (not_undisturbed (ofFile_failureOf known_snapshotFile path fault))
      rw [objectAt_of_file (Disk.readFile_location hp hr)]
      simp only [he, hr] at h ⊢
      rcases htext : textOf octets with failure | cs
      · rw [htext] at h
        exact absurd h (not_undisturbed (ofFile_textOf htext))
      -- a blank file counts as an empty table, and is read as none
      by_cases hb : Text.allBlank cs = true
      · simp only [if_pos hb, objectIn_of_allBlank htext hb, and_self]
      · simp only [htext, if_neg hb] at h ⊢
        have hparse : Undisturbed (snapshotFile.parse path cs) := by
          intro failure hf
          exact h failure (by rw [hf])
        obtain ⟨es, hok, hread⟩ := exists_parse known_snapshotFile hparse
        rw [hok, objectIn_of_read htext hread]
        exact ⟨rfl, rfl⟩

/-- The variables of one of the environments in a table; where there is no table of them, there are
none. -/
def chosen (name : Text) (environments : Entries) : Entries :=
  match environments.get? (.text name) with
  | some (.table entries) => entries
  | _ => []

theorem selected_content {shownAs name : Text} {environments : Entries}
    (h : Undisturbed (selected shownAs (.text name) environments)) :
    selected shownAs (.text name) environments = .ok (chosen name environments) := by
  rw [selected] at h ⊢
  rw [chosen]
  split at h
  · next hn => rw [hn]
  · next entries hs => rw [hs]
  · exact absurd h (not_undisturbed trivial)

/-- Making an environment file changes no table. -/
theorem createEnvironments_content (ht : d.Tree) (hp : path.Direct)
    (hn : d.exists? path.text = .ok false)
    (h : Undisturbed (createEnvironments path d).result) :
    (createEnvironments path d).result = .ok () ∧
      KeepsTree d (createEnvironments path d).state ∧
      objectAt (createEnvironments path d).state = objectAt d := by
  rw [createEnvironments_eq] at h ⊢
  rcases hm : d.makeFolders path.parent with ⟨made, _ | fault⟩
  · simp only [hm] at h ⊢
    rcases hw : made.writeFile path.text (Text.Utf8.encode emptyObject) with fault | written
    · rw [hw] at h
      exact absurd h (not_undisturbed (ofFile_failureOf known_environmentFile path fault))
    · obtain ⟨hkeeps, hcontent⟩ := written_content ht hp hm hw
      rw [objectIn_emptyObject, ← objectAt_of_not_found ht hp hn, Function.update_eq_self]
        at hcontent
      exact ⟨rfl, hkeeps, hcontent⟩
  · rw [hm] at h
    exact absurd h (not_undisturbed (ofFile_failureOf known_environmentFile path fault))

/-- **Reading the environments gives the table at the location of their file**, and changes no
table. -/
theorem readEnvironments_content (ht : d.Tree) (hp : path.Direct) (createMissing : Bool)
    (h : Undisturbed (readEnvironments path createMissing d).result) :
    (readEnvironments path createMissing d).result = .ok (objectAt d (d.location path)) ∧
      KeepsTree d (readEnvironments path createMissing d).state ∧
      objectAt (readEnvironments path createMissing d).state = objectAt d := by
  rw [readEnvironments_eq] at h ⊢
  rcases he : d.exists? path.text with fault | found
  · rw [he] at h
    exact absurd h (not_undisturbed trivial)
  cases found with
  | false =>
      rw [objectAt_of_not_found ht hp he]
      simp only [he] at h ⊢
      cases createMissing with
      | false => exact ⟨rfl, ⟨rfl, ht⟩, rfl⟩
      | true =>
          have hcreate : Undisturbed (createEnvironments path d).result := fun failure hf =>
            h failure (map_eq_error_iff.2 hf)
          obtain ⟨hok, hkeeps, hcontent⟩ := createEnvironments_content ht hp he hcreate
          exact ⟨map_eq_ok_iff.2 ⟨(), hok, rfl⟩, hkeeps, hcontent⟩
  | true =>
      rcases hr : d.readFile path.text with fault | octets
      · rw [he, hr] at h
        exact absurd h (not_undisturbed (ofFile_failureOf known_environmentFile path fault))
      rw [objectAt_of_file (Disk.readFile_location hp hr)]
      simp only [he, hr] at h ⊢
      refine ⟨?_, ⟨rfl, ht⟩, trivial⟩
      rcases htext : textOf octets with failure | cs
      · rw [htext] at h
        exact absurd h (not_undisturbed (ofFile_textOf htext))
      rw [htext] at h
      obtain ⟨es, hok, hread⟩ := exists_parse known_environmentFile h
      rw [objectIn_of_read htext hread]
      exact hok

/-- **Loading an environment gives the chosen one of the table at the location of the file**, and
changes no table. -/
theorem loadEnvironment_content {shownAs : Text} (name : Text) (ht : d.Tree)
    (hp : (Path.ofText shownAs).Direct) (createMissing : Bool)
    (h : Undisturbed (loadEnvironment shownAs (.text name) createMissing d).result) :
    (loadEnvironment shownAs (.text name) createMissing d).result =
        .ok (chosen name (objectAt d (d.location (.ofText shownAs)))) ∧
      KeepsTree d (loadEnvironment shownAs (.text name) createMissing d).state ∧
      objectAt (loadEnvironment shownAs (.text name) createMissing d).state = objectAt d := by
  have hbind : Undisturbed ((readEnvironments (.ofText shownAs) createMissing d).result.bind
      (selected shownAs (.text name))) := fun failure hf =>
    h failure (by simp only [loadEnvironment_eq, hf])
  obtain ⟨hok, hkeeps, hcontent⟩ := readEnvironments_content ht hp createMissing
    fun failure hf => hbind failure (bind_eq_error_iff.2 (.inl hf))
  rw [hok] at hbind
  have hselected := selected_content hbind
  simp only [loadEnvironment_eq, hok, Except.bind, hselected]
  exact ⟨trivial, hkeeps, hcontent⟩

/-- **Saving changes the table at the location to what comes back of what is kept.** -/
theorem saveSnapshot_content (ht : d.Tree) (hp : path.Direct) {es : Entries} (hes : es.Regular)
    (h : Undisturbed (saveSnapshot path es d).result) :
    (saveSnapshot path es d).result = .ok es.keep ∧
      KeepsTree d (saveSnapshot path es d).state ∧
      objectAt (saveSnapshot path es d).state =
        Function.update (objectAt d) (d.location path) es.keep.reread := by
  obtain ⟨cs, htext⟩ := exists_snapshotText hes
  rw [saveSnapshot_eq] at h ⊢
  rcases hm : d.makeFolders path.parent with ⟨made, _ | fault⟩
  · simp only [hm, htext] at h ⊢
    rcases hw : made.writeFile path.text (Text.Utf8.encode cs) with fault | written
    · rw [hw] at h
      exact absurd h (not_undisturbed (ofFile_failureOf known_snapshotFile path fault))
    · obtain ⟨hkeeps, hcontent⟩ := written_content ht hp hm hw
      rw [objectIn_of_read (textOf_snapshotText htext) (read_snapshotText hes htext)]
        at hcontent
      exact ⟨rfl, hkeeps, hcontent⟩
  · rw [hm] at h
    exact absurd h (not_undisturbed (ofFile_failureOf known_snapshotFile path fault))

end Store

end Tiered
