import Mathlib
import Tiered.Proofs.Result
import Tiered.Schema.Validator

/-!
# Field — what a field of a record is read as

What is proved of records relies on a few laws of the library that makes them (`Validator.Lawful`).
By these a field comes to its default where it is absent and otherwise to what its value is read as
(`Comes`).  A value that cannot be read is one issue of the field (`issue?`), and a record has the
issues of all its fields, in their order (`issues_both`).
-/

namespace Tiered

/-- The value is a truth value, or a text of characters. -/
inductive Value.Portable : Value → Prop
  | bool (b : Bool) : Portable (.bool b)
  | text (cs : List Char) : Portable (.text (.ofChars cs))

/-- A failure of making a record that a library for records passes on as it is; it may take others
for a complaint about a value. -/
def Failure.PassedOn : Failure → Prop
  | .invalidConfig _ | .fieldName | .call _ _ => True
  | _ => False

/-- What the library for records does, as far as it is relied on. -/
structure Validator.Lawful [Validator] : Prop where
  /-- A text is read as it is. -/
  text_text (t : Text) : Validator.text (.text t) = .ok t
  /-- A truth value is read as it is. -/
  flag_bool (b : Bool) : Validator.flag (.bool b) = .ok b
  /-- A field that is absent is at its default. -/
  field_absent {α : Type} {es : Entries} {name : String} (absent : α)
    (read : Value → Except Schema.Complaint α) :
    es.get? (.text name) = none → Validator.field es name (some absent) read = .ok absent
  /-- A field that is given is read, and a complaint of its value is the one issue of the field. -/
  field_given {α : Type} {es : Entries} {name : String} {v : Value} (absent : Option α)
    (read : Value → Except Schema.Complaint α) : es.get? (.text name) = some v →
    Validator.field es name absent read = (read v).mapError fun c => [⟨some name, c, v⟩]
  /-- From a table a record is made in its own way, whose failures are passed on. -/
  ofValue_table {α : Type} (title : String) {make : Entries → Except Failure α} {es : Entries} :
    (∀ failure, make es = .error failure → failure.PassedOn) →
    Validator.ofValue title make (.table es) = make es
  /-- Fields of truth values and characters are written, and read as the table of them. -/
  ofJson_toJson {fields : List (String × Value)} : (fields.map Prod.fst).Nodup →
    (∀ f ∈ fields, f.2.Portable) → ∃ cs, Validator.toJson fields = some cs ∧
      ∀ {α : Type} (title : String) {make : Entries → Except Failure α},
        (∀ failure, make (.ofFields fields) = .error failure → failure.PassedOn) →
        Validator.ofJson title make cs = make (.ofFields fields)

namespace Schema

variable {α β γ : Type}

/-- The issues that were met. -/
def Checked.issues : Checked α → List Issue
  | .ok _ => []
  | .error is => is

/-- The complaint about a value, if it cannot be read. -/
def complaint? (read : Value → Except Complaint α) (v : Value) : Option Complaint :=
  match read v with
  | .ok _ => none
  | .error complaint => some complaint

/-- The issue of a field; an absent field has none. -/
def issue? (es : Entries) (read : Value → Except Complaint α) (field : String) : Option Issue :=
  (es.get? (.text field)).bind fun v => (complaint? read v).map fun c => ⟨some field, c, v⟩

/-- What a field comes to, which has a default. -/
inductive Comes (es : Entries) (field : String) (absent : α)
    (read : Value → Except Complaint α) : α → Prop
  | absent : es.get? (.text field) = none → Comes es field absent read absent
  | given {v : Value} {a : α} : es.get? (.text field) = some v → read v = .ok a →
      Comes es field absent read a

/-! ### Two parts of a record -/

section Both

variable {f : α → β → γ} {x : Checked α} {y : Checked β}

theorem issues_both : (Checked.both f x y).issues = x.issues ++ y.issues := by
  cases x <;> cases y <;> simp [Checked.both, Checked.issues]

theorem exists_both_iff :
    (∃ c, Checked.both f x y = .ok c) ↔ (∃ a, x = .ok a) ∧ ∃ b, y = .ok b := by
  cases x <;> cases y <;> simp [Checked.both]

end Both

theorem exists_name_iff [Validator] {v : Value} : (∃ t, name v = .ok t) ↔
    ∃ t, Validator.text v = .ok t ∧ ∃ u ∈ t.codes, Text.isBlankCode u = false := by
  refine exists_congr fun t => ?_
  rw [name_eq_ok_iff, Text.onlyBlank, List.all_eq_false]
  simp only [Bool.not_eq_true]

/-! ### One field -/

section Optional

variable [Validator] (hlawful : Validator.Lawful) {es fs : Entries} {field : String} {absent : α}
  {read : Value → Except Complaint α}

include hlawful

theorem optional_of_none (h : es.get? (.text field) = none) :
    optional es field absent read = .ok absent := hlawful.field_absent absent read h

theorem optional_of_some {v : Value} (h : es.get? (.text field) = some v) :
    optional es field absent read = (read v).mapError fun c => [⟨some field, c, v⟩] :=
  hlawful.field_given (some absent) read h

theorem optional_eq_ok_iff {a : α} :
    optional es field absent read = .ok a ↔ Comes es field absent read a := by
  cases h : es.get? (.text field) with
  | none =>
      rw [optional_of_none hlawful h, Except.ok.injEq]
      constructor
      · rintro rfl
        exact .absent h
      · rintro (- | ⟨hv, -⟩)
        · rfl
        · exact absurd (h.symm.trans hv) (by simp)
  | some v =>
      rw [optional_of_some hlawful h, mapError_eq_ok_iff]
      refine ⟨.given h, ?_⟩
      rintro (hv | ⟨hv, hread⟩)
      · exact absurd (h.symm.trans hv) (by simp)
      · cases Option.some.inj (h.symm.trans hv)
        exact hread

/-- A field is read, unless its value cannot be. -/
theorem exists_optional_iff : (∃ a, optional es field absent read = .ok a) ↔
    ∀ v, es.get? (.text field) = some v → ∃ a, read v = .ok a := by
  cases h : es.get? (.text field) with
  | none => simp [optional_of_none hlawful h]
  | some v => simp [optional_of_some hlawful h, mapError_eq_ok_iff]

theorem issues_optional :
    (optional es field absent read).issues = (issue? es read field).toList := by
  cases h : es.get? (.text field) with
  | none => simp [optional_of_none hlawful h, issue?, h, Checked.issues]
  | some v =>
      rw [optional_of_some hlawful h, issue?, h, Option.bind_some, complaint?]
      cases read v <;> rfl

theorem optional_of_get? (h : fs.get? (.text field) = es.get? (.text field)) :
    optional fs field absent read = optional es field absent read := by
  cases hes : es.get? (.text field) with
  | none => rw [optional_of_none hlawful hes, optional_of_none hlawful (h.trans hes)]
  | some v => rw [optional_of_some hlawful hes, optional_of_some hlawful (h.trans hes)]

/-- A field that is absent may as well be given what is read as its default. -/
theorem optional_congr {absentValue : Value} (hread : read absentValue = .ok absent)
    (h : fs.get? (.text field) = (es.get? (.text field)).or (some absentValue)) :
    optional fs field absent read = optional es field absent read := by
  cases hes : es.get? (.text field) with
  | none =>
      rw [hes, Option.none_or] at h
      rw [optional_of_none hlawful hes, optional_of_some hlawful h, hread]
      rfl
  | some v =>
      rw [hes, Option.some_or] at h
      rw [optional_of_some hlawful hes, optional_of_some hlawful h]

end Optional

end Schema

end Tiered
