import Tiered.Log.Event

/-!
# Call — what may be asked of a logger

A logger takes events, one operation for each topic with the topic's details as arguments, and
records, with a level, a message and any further fields.  A call names an operation and gives
arguments by position and by name; a record is made of it if the arguments fit.
-/

namespace Tiered.Log

/-- An operation of a logger. -/
inductive Operation where
  | event (topic : Topic)
  | record
  deriving DecidableEq, Repr

namespace Operation

/-- All operations. -/
def all : List Operation := record :: Topic.all.map event

/-- The name of an operation: a topic's with underscores for its points. -/
def name : Operation → String
  | event topic => "log_" ++ topic.name.map fun c => if c = '.' then '_' else c
  | record => "_emit"

/-- The name of loggers, in front of their operations' names. -/
def owner : String := "ResolverLogger"

/-- The parameter that gives a detail of a topic; the one of a failed assertion has a shorter name
than the detail. -/
def parameter (detail : String) : String :=
  if detail = "assertion_message" then "message" else detail

/-- What an operation takes. -/
def signature (o : Operation) : Signature :=
  match o with
  | event topic => ⟨owner ++ "." ++ o.name, topic.fieldNames.map parameter, [], false⟩
  | record => ⟨owner ++ "." ++ o.name, ["level", "message"], [], true⟩

/-- The operation with a name. -/
def ofName? (name : String) : Option Operation := all.find? fun o => o.name == name

end Operation

/-- The record that a call of an operation makes. -/
def Operation.call (o : Operation) (positional : List Value) (named : Fields) :
    Except Failure Record :=
  match o.signature.bind positional (Fields.ofPairs named) with
  | .error fault => .error (.call o.signature.name fault)
  | .ok args => match o with
    | .event topic => .ok (Event.record
        ⟨topic, topic.fieldNames.map fun detail => args.get (Operation.parameter detail)⟩)
    | .record => Record.make (args.get "level") (args.get "message") args.further

/-- The record that a call makes, or why none is made. -/
def call (operation : String) (positional : List Value) (named : Fields) :
    Except Failure Record :=
  match Operation.ofName? operation with
  | some o => o.call positional named
  | none => .error (.noAttribute (.foreign
      ⟨Operation.owner, Operation.owner, Operation.owner, "", false, none⟩) operation)

example : (Operation.event .snapshotSaveFailed).name = "log_snapshot_save_failed" := by
  decide +kernel

end Tiered.Log
