import Mathlib
import Tiered.Config.Load
import Tiered.Proofs.Schema.Standard
import Tiered.Proofs.Value.Table

/-!
# Ways — the ways to make a configuration agree

A configuration can be made from the fields themselves, from a table of them, or from the table in a
file, whose entries are written over the table of defaults.  That table and the defaults of the
fields are the same settings (`defaults_eq`).  Checking looks at the six fields only
(`check_congr`), and a field that stands at its default is read as if it were absent.  So the three
ways come to one outcome, and which one it is can be said field by field (`ways_agree`).
-/

namespace Tiered.Config

open Schema

/-- The fields that name something, in order. -/
def nameFields : List String := ["env_file", "env_name", "snapshot_file"]

/-- The fields that are switches, in order; they stand behind the names. -/
def switchFields : List String := ["persist_snapshot", "create_missing_env_file", "thread_safe"]

/-! ### The defaults -/

/-- The table of defaults holds the default of each field. -/
theorem defaults_eq : defaults = default.toEntries := rfl

theorem textKeys_defaults : defaults.TextKeys := textKeys_iff.1 (by decide +kernel)

theorem distinct_defaults : defaults.Distinct := by
  have hkeys : defaults.keys.Pairwise fun a b => a.equals b = false := by decide +kernel
  exact Entries.distinct_iff_keys.2 hkeys

variable {es fs : Entries}

section Lawful

variable [Validator]

/-- The issues of the fields in order, one for each that cannot be read. -/
def issues (es : Entries) : List Issue :=
  nameFields.filterMap (issue? es Schema.name) ++ switchFields.filterMap (issue? es Validator.flag)

/-- Every field that is there can be read, and no name is blank. -/
structure Accepts (es : Entries) : Prop where
  names : ∀ field ∈ nameFields, ∀ v, es.get? (.text field) = some v →
    ∃ t, Validator.text v = .ok t ∧ ∃ u ∈ t.codes, Text.isBlankCode u = false
  switches : ∀ field ∈ switchFields, ∀ v, es.get? (.text field) = some v →
    ∃ b, Validator.flag v = .ok b

/-- Each setting is what its field comes to. -/
structure Reads (es : Entries) (c : Config) : Prop where
  envFile : Comes es "env_file" default.envFile Schema.name c.envFile
  envName : Comes es "env_name" default.envName Schema.name c.envName
  snapshotFile : Comes es "snapshot_file" default.snapshotFile Schema.name c.snapshotFile
  persistSnapshot :
    Comes es "persist_snapshot" default.persistSnapshot Validator.flag c.persistSnapshot
  createMissing :
    Comes es "create_missing_env_file" default.createMissing Validator.flag c.createMissing
  threadSafe : Comes es "thread_safe" default.threadSafe Validator.flag c.threadSafe

/-! ### Checking the fields -/

section Checking

variable (hlawful : Validator.Lawful)

include hlawful

theorem check_eq_ok_iff {c : Config} : check es = .ok c ↔ Reads es c := by
  simp only [check, Checked.both_eq_ok_iff, optional_eq_ok_iff hlawful]
  constructor
  · rintro ⟨_, _, ⟨_, _, h₁, ⟨_, _, h₂, h₃, rfl⟩, rfl⟩, ⟨_, _, h₄, ⟨_, _, h₅, h₆, rfl⟩, rfl⟩, rfl⟩
    exact ⟨h₁, h₂, h₃, h₄, h₅, h₆⟩
  · intro h
    exact ⟨_, _, ⟨_, _, h.envFile, ⟨_, _, h.envName, h.snapshotFile, rfl⟩, rfl⟩,
      ⟨_, _, h.persistSnapshot, ⟨_, _, h.createMissing, h.threadSafe, rfl⟩, rfl⟩, rfl⟩

theorem exists_check_iff : (∃ c, check es = .ok c) ↔ Accepts es := by
  have hnames : (∀ field ∈ nameFields, ∀ v, es.get? (.text field) = some v →
      ∃ t, Schema.name v = .ok t) ∧ (∀ field ∈ switchFields, ∀ v, es.get? (.text field) = some v →
      ∃ b, Validator.flag v = .ok b) ↔ Accepts es := by
    simp only [exists_name_iff]
    exact ⟨fun h => ⟨h.1, h.2⟩, fun h => ⟨h.names, h.switches⟩⟩
  rw [← hnames]
  simp only [check, exists_both_iff, exists_optional_iff hlawful, nameFields, switchFields,
    List.forall_mem_cons, List.not_mem_nil, false_implies, implies_true, and_true]

theorem issues_check : (check es).issues = issues es := by
  simp only [check, issues_both, issues_optional hlawful, issues, nameFields, switchFields,
    List.filterMap_eq_flatMap_toList, List.flatMap_cons, List.flatMap_nil, List.append_nil]

/-- Checking looks at the fields only. -/
theorem check_congr (h : ∀ field ∈ nameFields ++ switchFields,
    fs.get? (.text field) = es.get? (.text field)) : check fs = check es := by
  simp only [nameFields, switchFields, List.cons_append, List.nil_append,
    List.forall_mem_cons] at h
  obtain ⟨h₁, h₂, h₃, h₄, h₅, h₆, -⟩ := h
  rw [check, check, optional_of_get? hlawful h₁, optional_of_get? hlawful h₂,
    optional_of_get? hlawful h₃, optional_of_get? hlawful h₄, optional_of_get? hlawful h₅,
    optional_of_get? hlawful h₆]

/-- A field may as well stand at its default. -/
theorem check_overDefaults (htexts : es.TextKeys) (hdistinct : es.Distinct) :
    check (overDefaults es) = check es := by
  have hfields : ∀ f ∈ default.fields,
      (overDefaults es).get? (.text f.1) = (es.get? (.text f.1)).or (some f.2) := by
    intro f hf
    have hdefault : (Value.text f.1, f.2) ∈ defaults := by
      rw [defaults_eq]
      exact List.mem_map_of_mem hf
    rw [overDefaults, Entries.get?_putAll textKeys_defaults htexts hdistinct,
      Entries.get?_of_mem distinct_defaults hdefault]
  simp only [fields, List.forall_mem_cons] at hfields
  obtain ⟨h₁, h₂, h₃, h₄, h₅, h₆, -⟩ := hfields
  have hname {t : Text} (h : t.onlyBlank = false) : Schema.name (.text t) = .ok t :=
    name_eq_ok_iff.2 ⟨hlawful.text_text t, h⟩
  rw [check, check, optional_congr hlawful (hname (by decide +kernel)) h₁,
    optional_congr hlawful (hname (by decide +kernel)) h₂,
    optional_congr hlawful (hname (by decide +kernel)) h₃,
    optional_congr hlawful (hlawful.flag_bool _) h₄,
    optional_congr hlawful (hlawful.flag_bool _) h₅,
    optional_congr hlawful (hlawful.flag_bool _) h₆]

end Checking

/-! ### Making a configuration -/

/-- What a table of fields makes is what checking the fields comes to. -/
theorem ofEntries_eq (htexts : es.TextKeys)
    (hself : es.contains (.text Signature.subject) = false) :
    ofEntries es = (check es).mapError fun issues => .invalidConfig ⟨title, issues⟩ := by
  rw [ofEntries, textKeys_iff.2 htexts, hself]
  cases check es <;> rfl

/-- The library passes on the failures of making a configuration from a table. -/
theorem passedOn_ofEntries {failure : Failure} (h : ofEntries es = .error failure) :
    failure.PassedOn := by
  rw [ofEntries] at h
  split_ifs at h
  · obtain rfl := Except.error.inj h
    trivial
  · obtain rfl := Except.error.inj h
    trivial
  · cases hc : check es with
    | ok c => exact absurd h (by simp [hc])
    | error issues =>
        obtain rfl : Failure.invalidConfig ⟨title, issues⟩ = failure := by simpa [hc] using h
        trivial

/-- **A table as a value makes what its entries make.** -/
theorem ofValue_table (hlawful : Validator.Lawful) (es : Entries) :
    ofValue (.table es) = ofEntries es := by
  have hmade : Validator.ofValue title ofEntries (.table es) = ofEntries es :=
    hlawful.ofValue_table title fun failure => passedOn_ofEntries
  rw [ofValue, hmade]
  cases h : ofEntries es with
  | ok c => rfl
  | error failure =>
      have hpassed := passedOn_ofEntries h
      cases failure <;> first | rfl | exact hpassed.elim

theorem ofEntries_congr (htexts : es.TextKeys)
    (hself : es.contains (.text Signature.subject) = false) (htexts' : fs.TextKeys)
    (hself' : fs.contains (.text Signature.subject) = false) (h : check fs = check es) :
    ofEntries fs = ofEntries es := by
  rw [ofEntries_eq htexts hself, ofEntries_eq htexts' hself', h]

theorem ofEntries_overDefaults (hlawful : Validator.Lawful) (htexts : es.TextKeys)
    (hdistinct : es.Distinct) (hself : es.contains (.text Signature.subject) = false) :
    ofEntries (overDefaults es) = ofEntries es :=
  ofEntries_congr htexts hself (Entries.textKeys_putAll textKeys_defaults htexts)
    (Entries.contains_putAll_eq_false (by decide +kernel) hself)
    (check_overDefaults hlawful htexts hdistinct)

theorem ofEntries_of_not_accepts (hlawful : Validator.Lawful) (htexts : es.TextKeys)
    (hself : es.contains (.text Signature.subject) = false) (h : ¬ Accepts es) :
    ofEntries es = .error (.invalidConfig ⟨title, issues es⟩) := by
  rw [ofEntries_eq htexts hself, ← issues_check hlawful]
  cases hc : check es with
  | ok c => exact absurd ((exists_check_iff hlawful).1 ⟨c, hc⟩) h
  | error is => rfl

/-- **The ways to make a configuration agree**, whichever library makes the records, as long as it
is lawful.  From a table under different texts, the name of the subject not among them, the fields
themselves, the table as a value and the table written over the defaults, as a file's is, make one
and the same.  That is a configuration of what the fields come to if every field that is there can
be read and no name is blank, and otherwise the report of one issue for each field that cannot be,
in the order of the fields.  What else is in the table does not matter. -/
theorem ways_agree (hlawful : Validator.Lawful) (htexts : es.TextKeys) (hdistinct : es.Distinct)
    (hself : es.contains (.text Signature.subject) = false) :
    ofValue (.table es) = ofEntries es ∧
      ofEntries (overDefaults es) = ofEntries es ∧
      (∀ d path octets, d.holds path = true → d.readFile path = .ok octets →
        parseToml octets = .ok es → loadAt d path = ofEntries es) ∧
      ((∃ c, ofEntries es = .ok c) ↔ Accepts es) ∧
      (∀ c, ofEntries es = .ok c ↔ Reads es c) ∧
      (¬ Accepts es → ofEntries es = .error (.invalidConfig ⟨title, issues es⟩)) ∧
      ∀ fs : Entries, fs.TextKeys → fs.contains (.text Signature.subject) = false →
        (∀ field ∈ nameFields ++ switchFields,
          fs.get? (.text field) = es.get? (.text field)) → ofEntries fs = ofEntries es := by
  have hdefaults := ofEntries_overDefaults hlawful htexts hdistinct hself
  have hok : ∀ c, ofEntries es = .ok c ↔ check es = .ok c := by
    intro c
    rw [ofEntries_eq htexts hself, mapError_eq_ok_iff]
  refine ⟨ofValue_table hlawful es, hdefaults, ?_, ?_, ?_,
    ofEntries_of_not_accepts hlawful htexts hself, ?_⟩
  · intro d path octets hholds hread hparse
    rw [loadAt, hholds, hread, ← hdefaults]
    dsimp only
    rw [hparse]
    rfl
  · simp only [hok, exists_check_iff hlawful]
  · simp only [hok, check_eq_ok_iff hlawful, implies_true]
  · intro fs htexts' hself' hfields
    exact ofEntries_congr htexts hself htexts' hself' (check_congr hlawful hfields)

end Lawful

/-- A table with a blank name, a number that is no truth value, a word that is one and an entry that
is no field. -/
def mistaken : Entries :=
  Entries.ofFields [("thread_safe", .text "Off"), ("env_name", .text " \t"), ("colour", .none),
    ("persist_snapshot", .int 2)]

/-- The blank name and the number are reported in the order of the fields, and the other two entries
are not. -/
theorem ways_agree_mistaken : ofEntries (overDefaults mistaken) = ofEntries mistaken ∧
    ofEntries mistaken = .error (.invalidConfig ⟨title, [⟨some "env_name", .blank, .text " \t"⟩,
      ⟨some "persist_snapshot", .flagContent, .int 2⟩]⟩) := by
  have hdistinct : mistaken.Distinct := by
    have hkeys : mistaken.keys.Pairwise fun a b => a.equals b = false := by decide +kernel
    exact Entries.distinct_iff_keys.2 hkeys
  have htexts : mistaken.TextKeys := textKeys_iff.1 (by decide +kernel)
  have hself : mistaken.contains (.text Signature.subject) = false := by decide +kernel
  obtain ⟨-, hdefaults, -, -, -, hissues, -⟩ :=
    ways_agree Validator.lawful_standard htexts hdistinct hself
  have hreport : issues mistaken = [⟨some "env_name", .blank, .text " \t"⟩,
      ⟨some "persist_snapshot", .flagContent, .int 2⟩] := by
    have hblank : complaint? Schema.name (.text " \t") = some .blank := by decide +kernel
    have hword : complaint? Validator.flag (.text "Off") = none := by decide +kernel
    have htwo : complaint? Validator.flag (.int 2) = some .flagContent := by decide +kernel
    simp [issues, nameFields, switchFields, issue?, mistaken, Entries.ofFields, Entries.get?_cons,
      Entries.get?_nil, Value.equals_text, Text.ofString_inj, hblank, hword, htwo]
  rw [hreport] at hissues
  refine ⟨hdefaults, hissues fun h => ?_⟩
  have hfound : mistaken.get? (.text "env_name") = some (.text " \t") :=
    Entries.get?_of_mem hdistinct (by simp [mistaken, Entries.ofFields])
  obtain ⟨t, ht, u, hu, hblank⟩ := h.names "env_name" (by decide) _ hfound
  cases ht
  have hall : (Text.ofString " \t").onlyBlank = true := by decide +kernel
  rw [List.all_eq_true.1 hall u hu] at hblank
  exact absurd hblank (by simp)

end Tiered.Config
