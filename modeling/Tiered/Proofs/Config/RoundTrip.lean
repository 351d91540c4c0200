import Mathlib
import Tiered.Proofs.Config.Ways

/-!
# RoundTrip — a configuration and its JSON text

The settings as a table are read as the settings they are, unless a name is blank
(`reads_toEntries_iff`).  A configuration whose names are texts of characters has a JSON text, and
that is read as the table of the settings, if the library for records is lawful.

* `made_iff_read_back`: such a configuration is read back from its JSON text exactly when it can be
  made, and that is when none of its names is blank.
-/

namespace Tiered.Config

open Schema

variable {c : Config}

/-- None of the names is blank. -/
structure Named (c : Config) : Prop where
  envFile : c.envFile.onlyBlank = false
  envName : c.envName.onlyBlank = false
  snapshotFile : c.snapshotFile.onlyBlank = false

/-- The names are texts of characters: no surrogate is in them. -/
structure Spelt (c : Config) : Prop where
  envFile : ∃ cs, c.envFile = .ofChars cs
  envName : ∃ cs, c.envName = .ofChars cs
  snapshotFile : ∃ cs, c.snapshotFile = .ofChars cs

/-! ### The table of a configuration -/

/-- Every configuration has its table under the same keys. -/
theorem keys_toEntries (c : Config) : c.toEntries.keys = defaults.keys := rfl

theorem nodup_fields (c : Config) : (c.fields.map Prod.fst).Nodup := by
  simp [fields]

theorem textKeys_toEntries (c : Config) : c.toEntries.TextKeys := by
  simp [toEntries, fields, Entries.ofFields, Entries.TextKeys]

theorem distinct_toEntries (c : Config) : c.toEntries.Distinct := by
  rw [Entries.distinct_iff_keys, keys_toEntries, ← Entries.distinct_iff_keys]
  exact distinct_defaults

theorem contains_subject_toEntries (c : Config) :
    c.toEntries.contains (.text Signature.subject) = false := by
  rw [← Bool.not_eq_true, Entries.contains_text_iff (textKeys_toEntries c), keys_toEntries,
    ← Entries.contains_text_iff textKeys_defaults]
  decide +kernel

theorem portable_fields (h : c.Spelt) : ∀ f ∈ c.fields, f.2.Portable := by
  have htext {t : Text} (ht : ∃ cs, t = .ofChars cs) : (Value.text t).Portable := by
    obtain ⟨cs, rfl⟩ := ht
    exact .text cs
  simp [fields, htext h.envFile, htext h.envName, htext h.snapshotFile, Value.Portable.bool]

/-! ### Writing and reading -/

/-- The table of a configuration holds each setting under its name. -/
theorem get?_toEntries {field : String} {v : Value} (h : (field, v) ∈ c.fields) :
    c.toEntries.get? (.text field) = some v :=
  Entries.get?_of_mem (distinct_toEntries c) (List.mem_map.2 ⟨_, h, rfl⟩)

/-- A setting of a kind is read as itself from the table of its configuration. -/
theorem comes_toEntries {α : Type} {field : String} {absent a : α} {v : Value}
    {read : Value → Except Complaint α} (h : (field, v) ∈ c.fields) :
    Comes c.toEntries field absent read a ↔ read v = .ok a := by
  have hfound := get?_toEntries h
  constructor
  · rintro (hnone | ⟨hgiven, hread⟩)
    · exact absurd (hnone.symm.trans hfound) (by simp)
    · obtain rfl := Option.some.inj (hgiven.symm.trans hfound)
      exact hread
  · exact .given hfound

section Lawful

variable [Validator]

/-- **The settings as a table are read as they are, unless a name is blank.** -/
theorem reads_toEntries_iff (hlawful : Validator.Lawful) : Reads c.toEntries c ↔ c.Named := by
  have hname {field : String} {absent t : Text} (h : (field, .text t) ∈ c.fields) :
      Comes c.toEntries field absent Schema.name t ↔ t.onlyBlank = false := by
    rw [comes_toEntries h, name_eq_ok_iff]
    exact and_iff_right (hlawful.text_text t)
  have hflag {field : String} {absent b : Bool} (h : (field, .bool b) ∈ c.fields) :
      Comes c.toEntries field absent Validator.flag b :=
    (comes_toEntries h).2 (hlawful.flag_bool b)
  constructor
  · intro h
    exact ⟨(hname (by simp [fields])).1 h.envFile, (hname (by simp [fields])).1 h.envName,
      (hname (by simp [fields])).1 h.snapshotFile⟩
  · intro h
    exact ⟨(hname (by simp [fields])).2 h.envFile, (hname (by simp [fields])).2 h.envName,
      (hname (by simp [fields])).2 h.snapshotFile, hflag (by simp [fields]),
      hflag (by simp [fields]), hflag (by simp [fields])⟩

/-- What is made has no blank name, whatever stands beside the fields. -/
theorem named_of_ofEntries (hlawful : Validator.Lawful) {es : Entries} (h : ofEntries es = .ok c) :
    c.Named := by
  have hnamed {field : String} {absent t : Text} (hdefault : absent.onlyBlank = false)
      (hcomes : Comes es field absent Schema.name t) : t.onlyBlank = false := by
    cases hcomes with
    | absent => exact hdefault
    | given _ hread => exact (name_eq_ok_iff.1 hread).2
  have hcheck : check es = .ok c := by
    rw [ofEntries] at h
    split_ifs at h
    split at h
    · next hc => rw [hc, Except.ok.inj h]
    · exact absurd h (by simp)
  have hreads := (check_eq_ok_iff hlawful).1 hcheck
  exact ⟨hnamed (by decide +kernel) hreads.envFile, hnamed (by decide +kernel) hreads.envName,
    hnamed (by decide +kernel) hreads.snapshotFile⟩

/-- **The settings as a table make the configuration, unless a name is blank.** -/
theorem ofEntries_toEntries_iff (hlawful : Validator.Lawful) :
    ofEntries c.toEntries = .ok c ↔ c.Named := by
  rw [ofEntries_eq (textKeys_toEntries c) (contains_subject_toEntries c), mapError_eq_ok_iff,
    check_eq_ok_iff hlawful, reads_toEntries_iff hlawful]

/-- **A configuration is read back from its JSON text** exactly when it can be made, whichever
library makes the records, as long as it is lawful.  A configuration can be made, from a table of
whatever is read as its settings, exactly when no name in it is blank.  The names may hold any
characters, the quotes and backslashes of JSON among them; a surrogate is no character. -/
theorem made_iff_read_back (hlawful : Validator.Lawful) (c : Config) :
    ((∃ es, ofEntries es = .ok c) ↔ c.Named) ∧
      (c.Spelt →
        ((∃ es, ofEntries es = .ok c) ↔ ∃ cs, c.toJson = some cs ∧ ofJson cs = .ok c)) := by
  have hmade : (∃ es, ofEntries es = .ok c) ↔ c.Named := by
    refine ⟨?_, fun h => ⟨_, (ofEntries_toEntries_iff hlawful).2 h⟩⟩
    rintro ⟨es, h⟩
    exact named_of_ofEntries hlawful h
  refine ⟨hmade, fun hspelt => hmade.trans ?_⟩
  obtain ⟨cs, hwritten, hread⟩ := hlawful.ofJson_toJson (nodup_fields c) (portable_fields hspelt)
  have hback : ofJson cs = ofEntries c.toEntries :=
    hread title fun failure => passedOn_ofEntries
  rw [← ofEntries_toEntries_iff hlawful, ← hback]
  refine ⟨fun h => ⟨cs, hwritten, h⟩, ?_⟩
  rintro ⟨cs', hwritten', h⟩
  obtain rfl := Option.some.inj (hwritten'.symm.trans hwritten)
  exact h

end Lawful

/-- Names with a quote, a backslash, a line break and a letter of two octets. -/
def quoting : Config :=
  ⟨.ofChars ['a', '"', 'b'], .ofChars ['\\', '\n', 'é'], .ofChars [' ', '.'], true, false, true⟩

/-- The configuration of such names is read back from its JSON text, and none of them changes. -/
theorem made_iff_read_back_quoting : quoting.Spelt ∧
    ∃ cs, quoting.toJson = some cs ∧ ofJson cs = .ok quoting := by
  have hspelt : quoting.Spelt := ⟨⟨_, rfl⟩, ⟨_, rfl⟩, ⟨_, rfl⟩⟩
  obtain ⟨hnamed, hback⟩ := made_iff_read_back Validator.lawful_standard quoting
  refine ⟨hspelt, (hback hspelt).1 (hnamed.2 ?_)⟩
  exact ⟨by decide +kernel, by decide +kernel, by decide +kernel⟩

end Tiered.Config
