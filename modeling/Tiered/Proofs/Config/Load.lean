import Mathlib
import Tiered.Proofs.Config.Ways
import Tiered.Proofs.Files.Fault
import Tiered.Proofs.Toml.Regular

/-!
# Load — what loading a configuration comes to

Loading takes the table of the file, which is empty where there is no file (`tableAt`), and makes a
configuration of it over the defaults.  What is made is what the six fields come to, and what else
is in the table does not matter, but for an entry named like the subject of the making, which no
table may have (`ofEntries_overDefaults_of_subject`).  Such an entry, octets that are no text and a
whole number that is too long are what loading strays by; every other failure is a report on the
fields, a malformed document or a refusal of the disk (`load_outcomes`).
-/

namespace Tiered.Config

open Files Schema

variable {d : Disk} {path : Text} {es : Entries}

/-- The table of the file at a path; where there is no file it is empty. -/
def tableAt (d : Disk) (path : Text) : Except Failure Entries :=
  if !d.holds path then .ok []
  else match d.readFile path with
    | .error fault => .error (.files fault)
    | .ok octets => parseToml octets

/-- Loading makes a configuration of the table of the file, over the defaults. -/
theorem loadAt_eq (d : Disk) (path : Text) :
    loadAt d path = (tableAt d path).bind fun es => ofEntries (overDefaults es) := by
  rw [loadAt, tableAt]
  split_ifs
  · rfl
  · cases d.readFile path <;> rfl

/-- A failure that loading is known to have: a report on the fields, a malformed document, or a
refusal of the disk. -/
def Foreseen : Failure → Prop
  | .invalidConfig _ | .toml _ _ => True
  | .files fault => fault.Refusal
  | _ => False

/-- What is in a file that loading strays by. -/
inductive Astray (octets : Text.Utf8.Octets) : Prop
  /-- The octets are no text. -/
  | encoding {fault : Text.Utf8.Fault} : Text.Utf8.decode octets = .error fault → Astray octets
  /-- The reader meets a whole number that is too long. -/
  | overlong {cs : List Char} {digits : Nat} : Text.Utf8.decode octets = .ok cs →
      Toml.read cs = .error (.overlong digits) → Astray octets
  /-- An entry has the name of the subject. -/
  | subject {cs : List Char} {es : Entries} : Text.Utf8.decode octets = .ok cs →
      Toml.read cs = .ok es → es.contains (.text Signature.subject) = true → Astray octets

/-! ### The table of a file -/

theorem parseToml_eq_ok_iff {octets : Text.Utf8.Octets} : parseToml octets = .ok es ↔
    ∃ cs, Text.Utf8.decode octets = .ok cs ∧ Toml.read cs = .ok es := by
  rw [parseToml]
  cases Text.Utf8.decode octets with
  | error fault => simp
  | ok cs =>
      simp only [Except.ok.injEq, exists_eq_left']
      cases Toml.read cs with
      | ok es' => simp
      | error fault => cases fault <;> simp

/-- A document that can be read strays by an entry with the name of the subject alone. -/
theorem astray_iff_of_parseToml {octets : Text.Utf8.Octets} (h : parseToml octets = .ok es) :
    Astray octets ↔ es.contains (.text Signature.subject) = true := by
  obtain ⟨cs, hdecode, hread⟩ := parseToml_eq_ok_iff.1 h
  refine ⟨?_, .subject hdecode hread⟩
  rintro (hdecode' | ⟨hdecode', hread'⟩ | ⟨hdecode', hread', hsubject⟩)
  · exact absurd (hdecode'.symm.trans hdecode) (by simp)
  · obtain rfl := Except.ok.inj (hdecode'.symm.trans hdecode)
    exact absurd (hread'.symm.trans hread) (by simp)
  · obtain rfl := Except.ok.inj (hdecode'.symm.trans hdecode)
    obtain rfl := Except.ok.inj (hread'.symm.trans hread)
    exact hsubject

/-- A document that cannot be read is malformed, or strays. -/
theorem foreseen_iff_of_parseToml {octets : Text.Utf8.Octets} {failure : Failure}
    (h : parseToml octets = .error failure) : Foreseen failure ↔ ¬ Astray octets := by
  rw [parseToml] at h
  cases hdecode : Text.Utf8.decode octets with
  | error fault =>
      obtain rfl : Failure.encoding fault = failure := by simpa [hdecode] using h
      exact iff_of_false id fun hn => hn (.encoding hdecode)
  | ok cs =>
      cases hread : Toml.read cs with
      | ok es => simp [hdecode, hread] at h
      | error fault =>
          cases fault with
          | overlong digits =>
              obtain rfl : Failure.overlong (some digits) = failure := by
                simpa [hdecode, hread] using h
              exact iff_of_false id fun hn => hn (.overlong hdecode hread)
          | malformed what place =>
              obtain rfl : Failure.toml what place = failure := by
                simpa [hdecode, hread] using h
              refine iff_of_true trivial ?_
              rintro (hdecode' | ⟨hdecode', hread'⟩ | ⟨hdecode', hread', -⟩)
              · exact absurd (hdecode'.symm.trans hdecode) (by simp)
              all_goals
                obtain rfl := Except.ok.inj (hdecode'.symm.trans hdecode)
                exact absurd (hread'.symm.trans hread) (by simp)

theorem keyed_tableAt (h : tableAt d path = .ok es) : es.Keyed := by
  rw [tableAt] at h
  split_ifs at h
  · obtain rfl := Except.ok.inj h
    exact Entries.keyed_nil
  · split at h
    · exact absurd h (by simp)
    · obtain ⟨cs, -, hread⟩ := parseToml_eq_ok_iff.1 h
      exact Toml.keyed_of_read hread

/-- The file at a path is there, can be read, and holds what loading strays by. -/
def StraysAt (d : Disk) (path : Text) : Prop :=
  ∃ octets, d.holds path = true ∧ d.readFile path = .ok octets ∧ Astray octets

/-- A file whose table can be read strays by an entry with the name of the subject alone. -/
theorem straysAt_iff_of_tableAt (h : tableAt d path = .ok es) :
    StraysAt d path ↔ es.contains (.text Signature.subject) = true := by
  rw [tableAt] at h
  cases hholds : d.holds path with
  | false =>
      obtain rfl : [] = es := by simpa [hholds] using h
      refine iff_of_false ?_ (by simp [Entries.contains, Entries.get?_nil])
      rintro ⟨octets, hheld, -⟩
      exact absurd (hheld.symm.trans hholds) (by simp)
  | true =>
      cases hread : d.readFile path with
      | error fault => simp [hholds, hread] at h
      | ok octets =>
          have hparse : parseToml octets = .ok es := by simpa [hholds, hread] using h
          rw [← astray_iff_of_parseToml hparse]
          constructor
          · rintro ⟨octets', -, hread', hastray⟩
            obtain rfl := Except.ok.inj (hread'.symm.trans hread)
            exact hastray
          · exact fun hastray => ⟨octets, hholds, hread, hastray⟩

/-- **A file whose table cannot be read is refused or malformed, or strays.** -/
theorem foreseen_iff_of_tableAt {failure : Failure} (h : tableAt d path = .error failure) :
    Foreseen failure ↔ ¬ StraysAt d path := by
  rw [tableAt] at h
  cases hholds : d.holds path with
  | false => simp [hholds] at h
  | true =>
      cases hread : d.readFile path with
      | error fault =>
          obtain rfl : Failure.files fault = failure := by simpa [hholds, hread] using h
          have hthere : d.exists? path = .ok true := by
            rw [Disk.holds] at hholds
            cases he : d.exists? path with
            | ok there => simpa [he, Except.toOption] using hholds
            | error fault => simp [he, Except.toOption] at hholds
          refine iff_of_true ((Disk.readFile_fault hread).2 (Disk.nameable_of_exists? hthere)) ?_
          rintro ⟨octets, -, hread', -⟩
          exact absurd (hread'.symm.trans hread) (by simp)
      | ok octets =>
          have hparse : parseToml octets = .error failure := by simpa [hholds, hread] using h
          rw [foreseen_iff_of_parseToml hparse]
          refine not_congr ⟨fun hastray => ⟨octets, hholds, hread, hastray⟩, ?_⟩
          rintro ⟨octets', -, hread', hastray⟩
          obtain rfl := Except.ok.inj (hread'.symm.trans hread)
          exact hastray

/-! ### Making a configuration of it -/

/-- The name of the subject stays in the way over the defaults. -/
theorem ofEntries_overDefaults_of_subject (hes : es.Keyed)
    (h : es.contains (.text Signature.subject) = true) : ofEntries (overDefaults es) =
      .error (.call (title ++ ".__init__") (.repeated Signature.subject)) := by
  have htexts := textKeys_iff.2 (Entries.textKeys_putAll textKeys_defaults hes.texts)
  have hcontains : (overDefaults es).contains (.text Signature.subject) = true := by
    rw [Entries.contains] at h ⊢
    rw [overDefaults, Entries.get?_putAll textKeys_defaults hes.texts hes.distinct,
      Option.isSome_or, h, Bool.true_or]
  rw [ofEntries, overDefaults, htexts, ← overDefaults, hcontains]
  rfl

theorem loadAt_of_subject (h : tableAt d path = .ok es)
    (hself : es.contains (.text Signature.subject) = true) :
    loadAt d path = .error (.call (title ++ ".__init__") (.repeated Signature.subject)) := by
  rw [loadAt_eq, h]
  exact ofEntries_overDefaults_of_subject (keyed_tableAt h) hself

/-- **Without the name of the subject, loading makes what the fields of the table come to.** -/
theorem loadAt_of_table (h : tableAt d path = .ok es)
    (hself : es.contains (.text Signature.subject) = false) :
    loadAt d path = (check es).mapError fun issues => .invalidConfig ⟨title, issues⟩ := by
  have hkeyed := keyed_tableAt h
  rw [loadAt_eq, h, ← ofEntries_eq hkeyed.texts hself]
  exact ofEntries_overDefaults Validator.lawful_standard hkeyed.texts hkeyed.distinct hself

/-- **Every failure of loading is foreseen unless the file strays.** -/
theorem foreseen_iff_of_loadAt {failure : Failure} (h : loadAt d path = .error failure) :
    Foreseen failure ↔ ¬ StraysAt d path := by
  cases ht : tableAt d path with
  | error failure' =>
      rw [loadAt_eq, ht] at h
      obtain rfl := Except.error.inj h
      exact foreseen_iff_of_tableAt ht
  | ok es =>
      rw [straysAt_iff_of_tableAt ht, Bool.not_eq_true]
      cases hself : es.contains (.text Signature.subject) with
      | true =>
          rw [loadAt_of_subject ht hself] at h
          obtain rfl := Except.error.inj h
          exact iff_of_false id (by simp)
      | false =>
          rw [loadAt_of_table ht hself] at h
          cases hc : check es with
          | ok c => simp [hc, Except.mapError] at h
          | error issues =>
              obtain rfl : Failure.invalidConfig ⟨title, issues⟩ = failure := by
                simpa [hc, Except.mapError] using h
              exact iff_of_true trivial rfl

/-- Loading from a file that strays fails. -/
theorem exists_failure_of_straysAt (h : StraysAt d path) :
    ∃ failure, loadAt d path = .error failure := by
  cases ht : tableAt d path with
  | error failure => exact ⟨failure, by rw [loadAt_eq, ht]; rfl⟩
  | ok es => exact ⟨_, loadAt_of_subject ht ((straysAt_iff_of_tableAt ht).1 h)⟩

theorem foreseen_loadAt_iff :
    (∀ failure, loadAt d path = .error failure → Foreseen failure) ↔ ¬ StraysAt d path := by
  constructor
  · intro h hstrays
    obtain ⟨failure, hf⟩ := exists_failure_of_straysAt hstrays
    exact (foreseen_iff_of_loadAt hf).1 (h failure hf) hstrays
  · exact fun h failure hf => (foreseen_iff_of_loadAt hf).2 h

/-- **What is loaded has settings that the fields of the table come to.** -/
theorem loadAt_eq_ok_iff {c : Config} : loadAt d path = .ok c ↔
    ∃ es, tableAt d path = .ok es ∧ es.contains (.text Signature.subject) = false ∧
      Reads es c := by
  constructor
  · intro h
    cases ht : tableAt d path with
    | error failure => simp [loadAt_eq, ht, Except.bind] at h
    | ok es =>
        cases hself : es.contains (.text Signature.subject) with
        | true => simp [loadAt_of_subject ht hself] at h
        | false =>
            rw [loadAt_of_table ht hself, mapError_eq_ok_iff,
              check_eq_ok_iff Validator.lawful_standard] at h
            exact ⟨es, rfl, hself, h⟩
  · rintro ⟨es, ht, hself, hreads⟩
    rw [loadAt_of_table ht hself, mapError_eq_ok_iff, check_eq_ok_iff Validator.lawful_standard]
    exact hreads

theorem loadAt_of_not_accepts (h : tableAt d path = .ok es)
    (hself : es.contains (.text Signature.subject) = false) (hnot : ¬ Accepts es) :
    loadAt d path = .error (.invalidConfig ⟨title, issues es⟩) := by
  have htexts := (keyed_tableAt h).texts
  rw [loadAt_of_table h hself, ← ofEntries_eq htexts hself]
  exact ofEntries_of_not_accepts Validator.lawful_standard htexts hself hnot

/-- **Loading looks at the six fields and the name of the subject only.** -/
theorem loadAt_congr {d' : Disk} {path' : Text} {fs : Entries} (h : tableAt d path = .ok es)
    (h' : tableAt d' path' = .ok fs)
    (hself : es.contains (.text Signature.subject) = fs.contains (.text Signature.subject))
    (hfields : ∀ field ∈ nameFields ++ switchFields,
      fs.get? (.text field) = es.get? (.text field)) : loadAt d' path' = loadAt d path := by
  cases hes : es.contains (.text Signature.subject) with
  | true => rw [loadAt_of_subject h hes, loadAt_of_subject h' (hself.symm.trans hes)]
  | false =>
      rw [loadAt_of_table h hes, loadAt_of_table h' (hself.symm.trans hes),
        check_congr Validator.lawful_standard hfields]

/-- **What loading a configuration comes to**, on every disk and under every path.

* It gives exactly the configuration whose settings are what the fields of the file's table come to,
  or their defaults, if the table can be read and has no entry with the name of the subject.
* Otherwise it fails, by a report on the fields, a malformed document or a refusal of the disk,
  unless the file strays: its octets are no text, a whole number in it is too long, or there is an
  entry with the name of the subject.
* The report is on each field that cannot be read, in order.
* What is beside the fields does not matter: two files whose fields are the same, and which both or
  neither have an entry with the name of the subject, come to the same. -/
theorem load_outcomes (d : Disk) (path : Text) :
    (∀ c, load d (.text path) = .ok c ↔ ∃ es, tableAt d path = .ok es ∧
        es.contains (.text Signature.subject) = false ∧ Reads es c) ∧
      ((∀ failure, load d (.text path) = .error failure → Foreseen failure) ↔
        ¬ StraysAt d path) ∧
      (∀ es, tableAt d path = .ok es → es.contains (.text Signature.subject) = false →
        ¬ Accepts es → load d (.text path) = .error (.invalidConfig ⟨title, issues es⟩)) ∧
      (∀ d' path' es fs, tableAt d path = .ok es → tableAt d' path' = .ok fs →
        es.contains (.text Signature.subject) = fs.contains (.text Signature.subject) →
        (∀ field ∈ nameFields ++ switchFields,
          fs.get? (.text field) = es.get? (.text field)) →
        load d' (.text path') = load d (.text path)) := by
  have hload : ∀ d path, load d (.text path) = loadAt d path := fun _ _ => rfl
  simp only [hload]
  exact ⟨fun c => loadAt_eq_ok_iff, foreseen_loadAt_iff,
    fun es ht hself hnot => loadAt_of_not_accepts ht hself hnot,
    fun d' path' es fs ht ht' hself hfields => loadAt_congr ht ht' hself hfields⟩

/-- A disk whose working folder holds a file with the given text. -/
def holding (text : String) : Disk :=
  ⟨[([[0x77]], .folder), ([[0x77], [0x63]], .file (Text.Utf8.encode text.toList))], [[0x77]]⟩

/-- Of two entries that are no fields, one is passed over, and the one with the name of the subject
keeps the configuration from being made. -/
theorem load_subject :
    load (holding "env_name = \"prod\"\ncolour = 1") (.text "c") =
        .ok { default with envName := "prod" } ∧
      load (holding "env_name = \"prod\"\nself = 1") (.text "c") =
        .error (.call (title ++ ".__init__") (.repeated Signature.subject)) :=
  ⟨by cbv, by cbv⟩

end Tiered.Config
