import Tiered.Log.Record

/-!
# Sink — the forms in which records are taken

A sink takes a record under the name of its level, or always as information, or from a threshold
on.  A sink by name keeps one field name for itself.  A sink with a threshold wants whole numbers as
levels, passes nothing at or below zero, shows the message as text, and keeps the names that its own
entries have.
-/

namespace Tiered.Log

namespace Record

/-- The parameter of a sink by name that its operations fill in themselves. -/
def operationName : String := "method_name"

/-- The fields of a record leave the parameter of a sink by name alone. -/
def checkNames (r : Record) : Except Failure Unit :=
  if (r.fields.get? operationName).isSome then
    .error (.call "BoundLoggerBase._proxy_to_logger" (.repeated operationName))
  else .ok ()

/-- A record under the name of its level. -/
def named (r : Record) : Except Failure Fields := do
  let level ← Level.nameOf r.level
  r.checkNames
  return r.atLevel level

/-- A record as information, whatever the name of its level. -/
def asInfo (r : Record) : Except Failure Fields := do
  let _ ← Level.nameOf r.level
  return r.atLevel "info"

/-- A record given to a value that is no sink, which has no operation to take it. -/
def givenTo (v : Value) (r : Record) : Except Failure Fields := do
  let _ ← Level.nameOf r.level
  .error (.noAttribute v "info")

end Record

/-- What a sink with a threshold keeps of a record. -/
structure Entry where
  level : Value
  message : String
  extra : Fields
  deriving Repr

/-- A sink that passes records on from a level on. -/
structure Threshold where
  level : Level
  deriving DecidableEq, Repr

namespace Threshold

/-- The threshold at a level, which is a whole number or the word for one. -/
def ofValue (v : Value) : Except Failure Threshold :=
  match v with
  | .int n => .ok ⟨n⟩
  | .bool b => .ok ⟨Value.ofBool b⟩
  | .text t => match Level.ofWord? (.text t) with
    | some level => .ok ⟨level⟩
    | none => .error (.level (.unknownName (.text t)))
  | v => .error (.level (.noLevel v))

/-- The field names that a sink with a threshold keeps for itself. -/
def reserved : List String :=
  ["name", "msg", "args", "levelname", "levelno", "pathname", "filename", "module", "exc_info",
    "exc_text", "stack_info", "lineno", "funcName", "created", "msecs", "relativeCreated", "thread",
    "threadName", "processName", "process", "message", "asctime"]

/-- A level is passed on: it is above zero and not below the threshold. -/
def passes (t : Threshold) (level : Level) : Bool := 0 < level && t.level ≤ level

/-- The entry of a record, whose level must have a name that can be written. -/
def entry (r : Record) : Except Failure Entry := do
  let _ ← Level.nameOf r.level
  match r.fields.find? fun f => reserved.contains f.1 with
  | some f => .error (.reservedField f.1)
  | none =>
    if Failure.hasWords r.message then .ok ⟨r.level, Failure.plain r.message, r.fields⟩
    else .error (.overlong none)

/-- What the sink makes of a record: an entry, or nothing if the record is not passed on. -/
def take (t : Threshold) (r : Record) : Except Failure (Option Entry) :=
  let pass (n : Level) : Except Failure (Option Entry) :=
    if t.passes n then some <$> entry r else .ok none
  match r.level with
  | .int n => pass n
  | .bool b => pass (Value.ofBool b)
  | _ => .error (.level .noNumber)

end Threshold

end Tiered.Log
