import Tiered.Schema.Validator

/-!
# Config — the settings of a session

A configuration names the two files and the environment and has three switches.  It is made from a
table of fields: one that is absent has its default, a name must not be blank, and entries that are
no fields are passed over.  The defaults are written down twice: each field has its own, and there
is a table of them (`defaults`) that the entries of a file take the place of.
-/

namespace Tiered

/-- The settings of a session. -/
structure Config where
  /-- The file of named environments. -/
  envFile : Text
  /-- The environment that is chosen from it. -/
  envName : Text
  /-- The file that keeps the overlay between runs. -/
  snapshotFile : Text
  /-- Closing a session saves its overlay. -/
  persistSnapshot : Bool
  /-- Opening a session makes an environment file where there is none. -/
  createMissing : Bool
  /-- Accesses are guarded for use by several threads at a time. -/
  threadSafe : Bool
  deriving DecidableEq, Repr

namespace Config

/-- The settings where nothing is set: the default of each field. -/
def default : Config := ⟨"http-client.env.json", "dev", ".snapshot.json", true, true, false⟩

/-- The table of defaults. -/
def defaults : Entries :=
  Entries.ofFields [("env_file", .text "http-client.env.json"), ("env_name", .text "dev"),
    ("snapshot_file", .text ".snapshot.json"), ("persist_snapshot", .bool true),
    ("create_missing_env_file", .bool true), ("thread_safe", .bool false)]

/-- The fields with their names, in order. -/
def fields (c : Config) : List (String × Value) :=
  [("env_file", .text c.envFile), ("env_name", .text c.envName),
    ("snapshot_file", .text c.snapshotFile), ("persist_snapshot", .bool c.persistSnapshot),
    ("create_missing_env_file", .bool c.createMissing), ("thread_safe", .bool c.threadSafe)]

/-- The settings as a table. -/
def toEntries (c : Config) : Entries := Entries.ofFields c.fields

/-- The title of the record in reports. -/
def title : String := "ResolverConfig"

/-- The configuration of the three names and the three switches. -/
def ofParts (names : Text × Text × Text) (switches : Bool × Bool × Bool) : Config :=
  ⟨names.1, names.2.1, names.2.2, switches.1, switches.2.1, switches.2.2⟩

variable [Validator]

/-- Reads the fields, each of which may be absent. -/
def check (es : Entries) : Schema.Checked Config :=
  let file := Schema.optional es "env_file" default.envFile Schema.name
  let name := Schema.optional es "env_name" default.envName Schema.name
  let snapshot := Schema.optional es "snapshot_file" default.snapshotFile Schema.name
  let persist := Schema.optional es "persist_snapshot" default.persistSnapshot Validator.flag
  let create := Schema.optional es "create_missing_env_file" default.createMissing Validator.flag
  let guard := Schema.optional es "thread_safe" default.threadSafe Validator.flag
  let names := Schema.Checked.both Prod.mk file (Schema.Checked.both Prod.mk name snapshot)
  let switches := Schema.Checked.both Prod.mk persist (Schema.Checked.both Prod.mk create guard)
  Schema.Checked.both ofParts names switches

/-- The configuration that a table of fields makes.  Every field must be named by a text, and not
by the name of the subject of the making. -/
def ofEntries (es : Entries) : Except Failure Config :=
  if !Schema.textKeys es then .error .fieldName
  else if es.contains (.text Signature.subject) then
    .error (.call (title ++ ".__init__") (.repeated Signature.subject))
  else match check es with
    | .ok c => .ok c
    | .error issues => .error (.invalidConfig ⟨title, issues⟩)

/-- The configuration that a value makes.  What the library says against the value is a report on
the configuration. -/
def ofValue (v : Value) : Except Failure Config :=
  match Validator.ofValue title ofEntries v with
  | .ok c => .ok c
  | .error (.invalidRecord report) => .error (.invalidConfig report)
  | .error failure => .error failure

/-- The JSON text of a configuration. -/
def toJson (c : Config) : Option (List Char) := Validator.toJson c.fields

/-- The configuration that a JSON text makes. -/
def ofJson (cs : List Char) : Except Failure Config := Validator.ofJson title ofEntries cs

end Config

end Tiered
