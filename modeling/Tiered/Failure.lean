import Tiered.Call
import Tiered.Files.Access
import Tiered.Json.Reader
import Tiered.Json.Writer
import Tiered.Schema.Issue
import Tiered.Toml.Malformation
import Tiered.Value.Order
import Tiered.Value.Pairs
import Tiered.Value.Part

/-!
# Failure — why an operation did not succeed

A failure is a cause with what belongs to it; its words are made by `Failure.message`.  The first
group are failures of the library's own making, and the second group are passed on from the parts
that it is built from: files, texts, numbers, keys.
-/

namespace Tiered

/-- Why an attribute that every record has cannot be assigned. -/
inductive AttributeFault where
  /-- A record's kind can only be a kind; the value is of the given one. -/
  | noKind (kind : String)
  /-- A record cannot become one of the given kind. -/
  | otherKind
  /-- A record's fields can only be a table; the value is of the given kind. -/
  | noTable (kind : String)
  /-- The attribute is computed from the fields of the record with a title. -/
  | computed (title name : String)
  /-- The attribute belongs to the record with a title for good. -/
  | fixed (title name : String)
  /-- The attribute belongs to all records with a title together. -/
  | shared (title name : String)
  deriving DecidableEq, Repr

/-- The words for a fault. -/
def AttributeFault.message : AttributeFault → String
  | noKind kind => "__class__ must be set to a class, not '" ++ kind ++ "' object"
  | otherKind => "__class__ assignment only supported for mutable types or ModuleType subclasses"
  | noTable kind => "__dict__ must be set to a dictionary, not a '" ++ kind ++ "'"
  | computed title name => "property '" ++ name ++ "' of '" ++ title ++ "' object has no setter"
  | fixed title name => "attribute '" ++ name ++ "' of '" ++ title ++ "' objects is not writable"
  | shared title name =>
    "'" ++ name ++ "' is a ClassVar of `" ++ title ++ "` and cannot be set on an instance. " ++
      "If you want to set a value on the class, use `" ++ title ++ "." ++ name ++ " = value`."

/-- Why a value cannot stand in a pattern that has room for one. -/
inductive FormatFault where
  | noValue
  | manyValues
  deriving DecidableEq, Repr

/-- The words for a fault. -/
def FormatFault.message : FormatFault → String
  | noValue => "not enough arguments for format string"
  | manyValues => "not all arguments converted during string formatting"

/-- Why a level cannot be used. -/
inductive LevelFault where
  /-- Not a whole number. -/
  | noNumber
  /-- Not one of the levels with a name. -/
  | unnamed (level : Value)
  /-- A name that no level has. -/
  | unknownName (name : Value)
  /-- Neither a whole number nor a name. -/
  | noLevel (value : Value)
  deriving Repr

/-- The words for a fault. -/
def LevelFault.message : LevelFault → String
  | noNumber => "level must be an integer"
  | unnamed level => level.shown
  | unknownName name => "Unknown level: " ++ name.shown
  | noLevel value => "Level not an integer or a valid string: " ++ value.shown

/-- Why an operation did not succeed. -/
inductive Failure where
  /-- A failure of no particular kind. -/
  | general (message : String)
  /-- A configuration is refused, in the words of who refuses it. -/
  | misconfigured (message : String)
  /-- Fields of a configuration are invalid. -/
  | invalidConfig (report : Schema.Report)
  /-- The environment file cannot be used. -/
  | environmentFile (path : Files.Path) (reason : Value)
  /-- The snapshot file cannot be used. -/
  | snapshotFile (path : Files.Path) (reason : Value)
  /-- A template names variables that are not defined. -/
  | undefined (names : List Value)
  /-- A session was used before it was opened or after it was closed. -/
  | notOpen (message : String)
  /-- Two values that were expected to be equal are not. -/
  | unequal (expected actual context : Value)
  /-- Fields of another record are invalid. -/
  | invalidRecord (report : Schema.Report)
  /-- A field is named by something that is no text. -/
  | fieldName
  /-- The disk refused an access. -/
  | files (fault : Files.Fault)
  /-- Octets that are no text. -/
  | encoding (fault : Text.Utf8.Fault)
  /-- A malformed configuration file. -/
  | toml (what : Toml.Malformation) (place : Option Text.Lines.Place)
  /-- A whole number is too long to be read or written as a text. -/
  | overlong (digits : Option Nat)
  /-- A value of a kind that JSON does not have. -/
  | unserializable (kind : String)
  /-- A key of a kind that JSON cannot write as a text. -/
  | badKey (kind : String)
  /-- A number that JSON does not have. -/
  | nonFinite (text : String)
  /-- A key that can change in place. -/
  | unhashable (kind : String)
  /-- Values that have no common order. -/
  | unordered (values : Unordered)
  /-- Something that is no path, with the words for it. -/
  | noPath (message : String)
  /-- Something that is no text, where a template was expected. -/
  | noTemplate (kind : String)
  /-- Something without items, where several things were expected. -/
  | noItems (kind : String)
  /-- Something in which nothing can be looked for. -/
  | noMembers (kind : String)
  /-- Octets, in which a text was looked for. -/
  | noTextInOctets
  /-- Something that a text cannot be continued by. -/
  | noContinuation (kind : String)
  /-- A value has no attribute with a name. -/
  | noAttribute (owner : Value) (name : String)
  /-- Arguments do not fit an operation. -/
  | call (operation : String) (fault : CallFault)
  /-- Something that holds no entries. -/
  | pairs (fault : PairFault)
  /-- An attribute that every record has cannot be assigned. -/
  | assignment (fault : AttributeFault)
  /-- A value cannot stand in a pattern. -/
  | format (fault : FormatFault)
  /-- A level cannot be used. -/
  | level (fault : LevelFault)
  /-- A field of a record has a name that its reader keeps for itself. -/
  | reservedField (name : String)
  /-- A number that is no number of an open file, with the words for it. -/
  | noFileNumber (message : String)
  /-- A part of a value cannot be reached or changed. -/
  | part (fault : PartFault)
  /-- A value is nested too deep to be copied. -/
  | tooDeep
  deriving Repr

namespace Failure

/-- The failure to use a session that is not open. -/
def sessionNotOpen : Failure := notOpen "Variable session is not open"

/-- The failure that a refusal of the JSON writer is. -/
def ofRefusal : Json.Refusal → Failure
  | .unserializable kind => unserializable kind
  | .badKey kind => badKey kind
  | .nonFinite text => nonFinite text
  | .overlong => overlong none

/-- A value in the middle of a message: a text as it is, anything else as it is shown, and the mark
for absence with its kind in front. -/
def plain : Value → String
  | .text t => t.string
  | .notFound => Value.notFound.kind ++ "." ++ Value.absenceName
  | v => v.shown

/-- A value can stand in the middle of a message; only overlong numbers keep it from that. -/
def hasWords : Value → Bool
  | .text _ => true
  | v => v.display?.isSome

/-- The words about two values that differ. -/
def comparison (expected actual context : Value) : String :=
  (if context.truthy then plain context ++ ": " else "") ++
    "expected " ++ expected.shown ++ ", got " ++ actual.shown

/-- The failure of two values that differ; it cannot be put into words if a number is overlong. -/
def ofComparison (expected actual context : Value) : Failure :=
  let shown := [expected, actual] ++ if context.truthy then [context] else []
  if shown.all hasWords then unequal expected actual context else overlong none

/-- The words about an attribute that a value does not have. -/
def noAttributeText (owner : Value) (name : String) : String :=
  let who := match owner with
    | .foreign thing => match thing.names? with
      | some kind => "type object '" ++ kind ++ "'"
      | none => "'" ++ thing.fullKind ++ "' object"
    | v => "'" ++ v.fullKind ++ "' object"
  who ++ " has no attribute '" ++ name ++ "'"

/-- The message of a failure. -/
def message : Failure → String
  | general text => text
  | misconfigured text => text
  | invalidConfig report => "Invalid resolver config: " ++ report.message
  | environmentFile path reason =>
    "Could not read environment file - " ++ path.text.string ++ ": " ++ plain reason
  | snapshotFile path reason =>
    "Could not access the snapshot file - " ++ path.text.string ++ ": " ++ plain reason
  | undefined names => "Undefined variables: " ++ Value.shown (.list names)
  | notOpen text => text
  | unequal expected actual context => comparison expected actual context
  | invalidRecord report => report.message
  | fieldName => "keywords must be strings"
  | files fault => fault.message
  | encoding fault => fault.message
  | toml what place => what.message place
  | overlong digits => Number.Decimal.overlongMessage digits
  | unserializable kind => (Json.Refusal.unserializable kind).message
  | badKey kind => (Json.Refusal.badKey kind).message
  | nonFinite text => (Json.Refusal.nonFinite text).message
  | unhashable kind => "unhashable type: '" ++ kind ++ "'"
  | unordered values =>
    "'<' not supported between instances of '" ++ values.left ++ "' and '" ++ values.right ++ "'"
  | noPath text => text
  | noTemplate kind =>
    if kind = "bytes" then "cannot use a string pattern on a bytes-like object"
    else "expected string or bytes-like object, got '" ++ kind ++ "'"
  | noItems kind => "'" ++ kind ++ "' object is not iterable"
  | noMembers kind => "argument of type '" ++ kind ++ "' is not iterable"
  | noTextInOctets => "a bytes-like object is required, not 'str'"
  | noContinuation kind => "can only concatenate str (not \"" ++ kind ++ "\") to str"
  | noAttribute owner name => noAttributeText owner name
  | call operation fault => fault.message operation
  | pairs fault => fault.message
  | assignment fault => fault.message
  | format fault => fault.message
  | level fault => fault.message
  | reservedField name => "\"Attempt to overwrite '" ++ name ++ "' in LogRecord\""
  | noFileNumber text => text
  | part fault => fault.message
  | tooDeep => "maximum recursion depth exceeded"

theorem message_ofRefusal (r : Json.Refusal) : (ofRefusal r).message = r.message := by
  cases r <;> rfl

end Failure

end Tiered
