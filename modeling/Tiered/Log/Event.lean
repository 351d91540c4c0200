import Tiered.Log.Record

/-!
# Event — what the library reports

There is one topic for each kind of thing that is reported.  A topic has a level, a name and the
names of its fields.  An event is a topic with its details: variable names, file paths, kinds and
counts, and never the value of a variable.
-/

namespace Tiered.Log

/-- The kinds of things that are reported. -/
inductive Topic where
  | variableSet
  | variableResolved
  | environmentLoaded
  | environmentCreated
  | snapshotLoaded
  | snapshotSaved
  | snapshotSaveFailed
  | valueSkipped
  | assertionFailed
  | sessionOpened
  | sessionClosed
  deriving DecidableEq, Repr

namespace Topic

/-- All topics. -/
def all : List Topic :=
  [variableSet, variableResolved, environmentLoaded, environmentCreated, snapshotLoaded,
    snapshotSaved, snapshotSaveFailed, valueSkipped, assertionFailed, sessionOpened, sessionClosed]

/-- The name of a topic. -/
def name : Topic → String
  | variableSet => "variable.set"
  | variableResolved => "variable.resolved"
  | environmentLoaded => "environment.loaded"
  | environmentCreated => "environment.created"
  | snapshotLoaded => "snapshot.loaded"
  | snapshotSaved => "snapshot.saved"
  | snapshotSaveFailed => "snapshot.save_failed"
  | valueSkipped => "snapshot.value_skipped"
  | assertionFailed => "assertion.failed"
  | sessionOpened => "session.opened"
  | sessionClosed => "session.closed"

/-- How urgent a topic is. -/
def level : Topic → Level
  | variableSet => Level.debug
  | variableResolved => Level.debug
  | snapshotSaveFailed => Level.error
  | valueSkipped => Level.warning
  | assertionFailed => Level.warning
  | _ => Level.info

/-- The names of a topic's fields, in order. -/
def fieldNames : Topic → List String
  | variableSet => ["key"]
  | variableResolved => ["key", "source"]
  | environmentLoaded => ["path", "env_name", "variable_count"]
  | environmentCreated => ["path"]
  | snapshotLoaded => ["path", "variable_count"]
  | snapshotSaved => ["path", "variable_count"]
  | snapshotSaveFailed => ["path", "error"]
  | valueSkipped => ["key", "value_type"]
  | assertionFailed => ["assertion_message"]
  | sessionOpened => ["env_name", "env_count", "snapshot_count"]
  | sessionClosed => ["snapshot_count", "persisted"]

theorem mem_all (t : Topic) : t ∈ all := by cases t <;> decide

end Topic

/-- A topic with a detail for each of its fields. -/
structure Event where
  topic : Topic
  details : List Value
  deriving Repr

namespace Event

/-- A count of things, as a detail. -/
def count (n : Nat) : Value := .int n

/-- A variable was written. -/
def variableSet (key : Value) : Event := ⟨.variableSet, [key]⟩

/-- A variable was looked up, and came from the named tier. -/
def variableResolved (key : Value) (source : String) : Event :=
  ⟨.variableResolved, [key, .text source]⟩

/-- The variables of a named environment were read. -/
def environmentLoaded (path : Text) (name : Value) (defined : Nat) : Event :=
  ⟨.environmentLoaded, [.text path, name, count defined]⟩

/-- An empty environment file was made. -/
def environmentCreated (path : Text) : Event := ⟨.environmentCreated, [.text path]⟩

/-- A snapshot was read. -/
def snapshotLoaded (path : Text) (entries : Nat) : Event :=
  ⟨.snapshotLoaded, [.text path, count entries]⟩

/-- A snapshot was written. -/
def snapshotSaved (path : Text) (entries : Nat) : Event :=
  ⟨.snapshotSaved, [.text path, count entries]⟩

/-- A snapshot could not be written while another error was on its way. -/
def snapshotSaveFailed (path : Text) (error : String) : Event :=
  ⟨.snapshotSaveFailed, [.text path, .text error]⟩

/-- An entry was left out of a snapshot because of the kind of its value. -/
def valueSkipped (key : Value) (kind : String) : Event := ⟨.valueSkipped, [key, .text kind]⟩

/-- Two values that were expected to be equal are not. -/
def assertionFailed (message : Value) : Event := ⟨.assertionFailed, [message]⟩

/-- A session began. -/
def sessionOpened (environment : Text) (defined entries : Nat) : Event :=
  ⟨.sessionOpened, [.text environment, count defined, count entries]⟩

/-- A session ended. -/
def sessionClosed (entries : Nat) (persisted : Bool) : Event :=
  ⟨.sessionClosed, [count entries, .bool persisted]⟩

/-- The message of an event. -/
def message (e : Event) : Text := "scriptvars." ++ e.topic.name

/-- The record of an event. -/
def record (e : Event) : Record :=
  Record.withEvent (.int e.topic.level) (.text e.message) (.text (Record.eventOf e.message))
    (("event", .text e.topic.name) :: e.topic.fieldNames.zip e.details)

end Event

end Tiered.Log
