import Tiered.Failure
import Tiered.Schema.Field

/-!
# Validator — the library that makes records

How values are read as fields, how records are made from values, and how they are written as JSON
and read back is left to a library.  The program is written for any such library, and `standard` is
the one that it runs with.
-/

namespace Tiered

/-- What a library for records does. -/
class Validator where
  /-- What a value is read as by a field for texts. -/
  text : Value → Except Schema.Complaint Text
  /-- What a value is read as by a field for truth values. -/
  flag : Value → Except Schema.Complaint Bool
  /-- What a field with a name comes to, which may have a default. -/
  field {α : Type} : Entries → String → Option α → (Value → Except Schema.Complaint α) →
    Schema.Checked α
  /-- The record with a title that a value makes, where a table of fields makes it in a way of its
  own. -/
  ofValue {α : Type} : String → (Entries → Except Failure α) → Value → Except Failure α
  /-- The JSON text of a record with its fields, if there is one. -/
  toJson : List (String × Value) → Option (List Char)
  /-- The record with a title that a JSON text makes, where a table of fields makes it in a way of
  its own. -/
  ofJson {α : Type} : String → (Entries → Except Failure α) → List Char → Except Failure α

namespace Validator

/-- A record is made from a table of fields only. -/
def tableOnly {α : Type} (title : String) (make : Entries → Except Failure α) (v : Value) :
    Except Failure α :=
  match v with
  | .table es => make es
  | v => .error (.invalidRecord ⟨title, [⟨none, .tableType, v⟩]⟩)

/-- A value that can be written with all its characters: a text of characters, or no text at all. -/
def writable : Value → Bool
  | .text t => t.chars?.isSome
  | _ => true

/-- The JSON object of the fields, unless one of them holds what is no character. -/
def object (fields : List (String × Value)) : Option (List Char) :=
  if fields.all fun f => writable f.2 then
    (Json.write Json.Style.dense (.table (Entries.ofFields fields))).toOption
  else none

/-- A record is made from a JSON object only. -/
def objectOnly {α : Type} (title : String) (make : Entries → Except Failure α) (cs : List Char) :
    Except Failure α :=
  match Json.read cs with
  | .ok (.table es) => make es
  | .ok v => .error (.invalidRecord ⟨title, [⟨none, .objectType, v⟩]⟩)
  | .error (.malformed what place) => .error (.misconfigured (what.message place))
  | .error (.overlong digits) => .error (.overlong (some digits))

/-- The library that the program runs with. -/
instance standard : Validator where
  text := Schema.text
  flag := Schema.flag
  field := Schema.field
  ofValue := tableOnly
  toJson := object
  ofJson := objectOnly

end Validator

namespace Schema

variable [Validator]

/-- A text that is not blank. -/
def name (v : Value) : Except Complaint Text :=
  (Validator.text v).bind fun t => if t.onlyBlank then .error .blank else .ok t

/-- A text, or nothing. -/
def textOrNone : Value → Except Complaint (Option Text)
  | .none => .ok none
  | v => (Validator.text v).map some

/-- A field that may be absent. -/
def optional {α : Type} (es : Entries) (field : String) (absent : α)
    (read : Value → Except Complaint α) : Checked α := Validator.field es field (some absent) read

/-- A field that must be there. -/
def required {α : Type} (es : Entries) (field : String) (read : Value → Except Complaint α) :
    Checked α := Validator.field es field none read

theorem name_eq_ok_iff {v : Value} {t : Text} :
    name v = .ok t ↔ Validator.text v = .ok t ∧ t.onlyBlank = false := by
  rw [name]
  cases h : Validator.text v with
  | error c => simp [Except.bind]
  | ok u =>
    simp only [Except.bind, Except.ok.injEq]
    cases hb : u.onlyBlank
    · simp only [Bool.false_eq_true, if_false, Except.ok.injEq]
      exact ⟨fun h => h ▸ ⟨rfl, hb⟩, fun h => h.1⟩
    · simp only [if_true, reduceCtorEq, false_iff, not_and]
      intro h
      simp [← h, hb]

end Schema

end Tiered
