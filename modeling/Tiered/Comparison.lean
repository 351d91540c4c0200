import Tiered.Action
import Tiered.Schema.Validator
import Tiered.Value.Equality

/-!
# Comparison — whether two values are equal

A comparison says whether two values are equal and keeps both, with an optional message.  Requiring
equality reports the message and fails if they differ.
-/

namespace Tiered

/-- The result of comparing two values. -/
structure Comparison where
  passed : Bool
  expected : Value
  actual : Value
  message : Option Text
  deriving Repr

namespace Comparison

/-- The title of the record in reports. -/
def title : String := "AssertionResult"

/-- The record as a table. -/
def toEntries (c : Comparison) : Entries :=
  Entries.ofFields [("passed", .bool c.passed), ("expected", c.expected), ("actual", c.actual),
    ("message", (c.message.map Value.text).getD .none)]

variable [Validator]

/-- The record that a table of fields makes. -/
def ofEntries (es : Entries) : Except Schema.Report Comparison :=
  let passed := Schema.required es "passed" Validator.flag
  let expected := Schema.optional es "expected" Value.none Schema.any
  let actual := Schema.optional es "actual" Value.none Schema.any
  let message := Schema.optional es "message" none Schema.textOrNone
  Schema.Checked.report title (Schema.Checked.both (fun a b => ⟨a.1, a.2, b.1, b.2⟩)
    (Schema.Checked.both Prod.mk passed expected) (Schema.Checked.both Prod.mk actual message))

/-- Compares two values; the message must be a text or nothing. -/
def of (expected actual message : Value) : Except Failure Comparison :=
  match Schema.textOrNone message with
  | .ok text => .ok ⟨expected.equals actual, expected, actual, text⟩
  | .error complaint => .error (.invalidRecord ⟨title, [⟨some "message", complaint, message⟩]⟩)

end Comparison

/-- Fails unless two values are equal. -/
def requireEqual [Validator] {σ : Type} (expected actual message : Value) : Action σ Unit := do
  let c ← Action.lift (Comparison.of expected actual message)
  if !c.passed then
    Action.emit (.assertionFailed message)
    Action.fail (.ofComparison expected actual message)

end Tiered
