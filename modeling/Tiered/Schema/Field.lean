import Tiered.Schema.Issue
import Tiered.Text.Blank
import Tiered.Value.Entries

/-!
# Field — reading the fields of a record

A field is read from the entry under its name, and is at its default where there is none.  Texts are
also read from octets; truth values also from the numbers zero and one and from a few words.  Every
field is read whether or not another one has an issue, so that a report names all of them in the
order of the fields.
-/

namespace Tiered.Schema

/-- Something that was read, or the issues that were met. -/
abbrev Checked (α : Type) := Except (List Issue) α

namespace Checked

/-- Both parts, or the issues of both, those of the first before those of the second. -/
def both {α β γ : Type} (f : α → β → γ) : Checked α → Checked β → Checked γ
  | .ok a, .ok b => .ok (f a b)
  | .ok _, .error js => .error js
  | .error is, .ok _ => .error is
  | .error is, .error js => .error (is ++ js)

/-- What was read, or the issues as a report. -/
def report {α : Type} (title : String) : Checked α → Except Report α
  | .ok a => .ok a
  | .error issues => .error ⟨title, issues⟩

theorem both_eq_ok_iff {α β γ : Type} {f : α → β → γ} {x : Checked α} {y : Checked β} {c : γ} :
    both f x y = .ok c ↔ ∃ a b, x = .ok a ∧ y = .ok b ∧ f a b = c := by
  cases x <;> cases y <;> simp [both]

end Checked

/-- A text, whatever its code points are; octets stand for the text that they encode, and the mark
for absence for its name. -/
def text : Value → Except Complaint Text
  | .text t => .ok t
  | .notFound => .ok Value.absenceName
  | .octets bytes => match Text.Utf8.decode bytes with
    | .ok cs => .ok (.ofChars cs)
    | .error _ => .error .textEncoding
  | _ => .error .textType

/-- The words that stand for a truth value, in any case. -/
def flagWord? (s : String) : Option Bool :=
  match s.map Char.toLower with
  | "0" | "f" | "n" | "no" | "off" | "false" => some false
  | "1" | "t" | "y" | "on" | "yes" | "true" => some true
  | _ => none

/-- Zero and one as truth values. -/
def flagNumber (n : Int) : Except Complaint Bool :=
  if !Value.fitsWord n then .error .flagType
  else if n = 0 then .ok false
  else if n = 1 then .ok true
  else .error .flagContent

/-- A truth value, or what stands for one. -/
def flag : Value → Except Complaint Bool
  | .bool b => .ok b
  | .int n => flagNumber n
  | .float x => match x.toInt? with
    | some n => flagNumber n
    | none => .error .flagType
  | .text t => match t.chars?.bind fun cs => flagWord? (String.ofList cs) with
    | some b => .ok b
    | none => .error .flagContent
  | .octets bytes => match Text.Utf8.decode bytes with
    | .ok cs => match flagWord? (String.ofList cs) with
      | some b => .ok b
      | none => .error .flagContent
    | .error _ => .error .flagContent
  | _ => .error .flagType

/-- Any value. -/
def any (v : Value) : Except Complaint Value := .ok v

/-- A field, which must be there if it has no default. -/
def field {α : Type} (es : Entries) (name : String) (absent : Option α)
    (read : Value → Except Complaint α) : Checked α :=
  match es.get? (.text name), absent with
  | some v, _ => (read v).mapError fun complaint => [⟨some name, complaint, v⟩]
  | none, some a => .ok a
  | none, none => .error [⟨some name, .missing, .table es⟩]

/-- Every key is a text. -/
def textKeys (es : Entries) : Bool := es.all fun e => (Value.text? e.1).isSome

theorem textKeys_iff {es : Entries} : textKeys es = true ↔ es.TextKeys := by
  simp only [textKeys, List.all_eq_true, Entries.TextKeys, Option.isSome_iff_exists]
  constructor <;> intro h e he
  · obtain ⟨s, hs⟩ := h e he
    refine ⟨s, ?_⟩
    revert hs
    cases e.1 <;> simp [Value.text?]
  · obtain ⟨s, hs⟩ := h e he
    exact ⟨s, by simp [hs, Value.text?]⟩

end Tiered.Schema
