import Tiered.Schema.Validator

/-!
# Lookup — what looking up a variable says

A look-up names the variable, says whether it was found and in which tier, and holds its value,
which is nothing when it was not found.
-/

namespace Tiered

/-- The tier that a value comes from. -/
inductive Tier where
  | snapshot
  | environment
  | none
  deriving DecidableEq, Repr

namespace Tier

/-- The name of a tier. -/
def name : Tier → String
  | snapshot => "snapshot"
  | environment => "environment"
  | none => "none"

/-- The tier with a name. -/
def ofName? : String → Option Tier
  | "snapshot" => some snapshot
  | "environment" => some environment
  | "none" => some none
  | _ => Option.none

theorem ofName?_name (t : Tier) : ofName? t.name = some t := by cases t <;> rfl

/-- A tier from the value of a field. -/
def ofField (v : Value) : Except Schema.Complaint Tier :=
  match (Schema.text v).toOption.bind fun t => ofName? t.string with
  | some t => .ok t
  | Option.none => .error .tierName

end Tier

/-- What looking up a variable says. -/
structure Lookup where
  key : Text
  found : Bool
  value : Value
  tier : Tier
  deriving Repr

namespace Lookup

/-- The title of the record in reports. -/
def title : String := "Resolution"

/-- The record as a table. -/
def toEntries (l : Lookup) : Entries :=
  Entries.ofFields [("key", .text l.key), ("found", .bool l.found), ("value", l.value),
    ("source", .text l.tier.name)]

/-- The record that a table of fields makes. -/
def ofEntries [Validator] (es : Entries) : Except Schema.Report Lookup :=
  let key := Schema.required es "key" Validator.text
  let found := Schema.required es "found" Validator.flag
  let value := Schema.optional es "value" Value.none Schema.any
  let tier := Schema.optional es "source" Tier.none Tier.ofField
  Schema.Checked.report title (Schema.Checked.both (fun a b => ⟨a.1, a.2, b.1, b.2⟩)
    (Schema.Checked.both Prod.mk key found) (Schema.Checked.both Prod.mk value tier))

end Lookup

end Tiered
