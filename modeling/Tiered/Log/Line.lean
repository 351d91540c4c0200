import Tiered.Log.Sink
import Tiered.Text.Lines

/-!
# Line — records as printed lines

A printer has a threshold and one of two forms.  The plain form is the time, the level, the event
and the logger in columns, and the other fields by name, behind which a trace and an error may stand
on lines of their own; the JSON form is one object with all fields.  A record whose level has no
name that a printer knows is printed as information.
-/

namespace Tiered.Log

/-- How records are printed. -/
structure Printer where
  threshold : Level
  asJson : Bool
  deriving Repr

namespace Printer

/-- The levels of a printer's own operations. -/
def operations : List (String × Level) :=
  [("debug", Level.debug), ("info", Level.info), ("warning", Level.warning),
    ("error", Level.error), ("critical", Level.critical)]

/-- The words that a threshold can be given by. -/
def words : List (String × Level) :=
  [("notset", 0), ("warn", Level.warning), ("exception", Level.error)] ++ operations

/-- The printer with a threshold, which is a level that has a name, or such a name in letters of any
case. -/
def ofValue (v : Value) (asJson : Bool) : Except Failure Printer :=
  match v with
  | .text t =>
    let word := t.lower
    match words.find? fun w => word = w.1 with
    | some w => .ok ⟨w.2, asJson⟩
    | none => .error (.level (.unnamed (.text word)))
  | v => match v.unhashable? with
    | some kind => .error (.unhashable kind)
    | none => match Level.ofValue? v with
      | some (level, _) => .ok ⟨level, asJson⟩
      | none => .error (.level (.unnamed v))

/-- The operation that prints a record at a level with a name. -/
def operation (name : Text) : String × Level :=
  (operations.find? fun o => name = o.1).getD ("info", Level.info)

end Printer

namespace Line

/-- The text with spaces behind it, up to a width. -/
def pad (width : Nat) (s : List Char) : List Char := s ++ List.replicate (width - s.length) ' '

/-- The characters that make a text stand in quotes. -/
def needsQuotes (c : Char) : Bool := [' ', '\t', '=', '\r', '\n', '"', '\''].contains c

/-- A value in a column. -/
def column (v : Value) : Except Failure (List Char) :=
  if Failure.hasWords v then .ok (Failure.plain v).toList else .error (.overlong none)

/-- A field's value behind its name: a text as it is unless it needs quotes, anything else as it is
shown. -/
def fieldValue (v : Value) : Except Failure (List Char) :=
  match v with
  | .text t => .ok (if t.chars.any needsQuotes then Text.Quoted.literal t else t.chars)
  | v => match v.display? with
    | some cs => .ok cs
    | none => .error (.overlong none)

/-- Puts a field into a row that is in order of names. -/
def insertByName (f : String × Value) : Fields → Fields
  | [] => [f]
  | g :: gs => if f.1 < g.1 then f :: g :: gs else g :: insertByName f gs

/-- The fields in order of their names. -/
def byName (fs : Fields) : Fields := fs.foldl (fun acc f => insertByName f acc) []

/-- The fields that have places of their own in a plain line, or none. -/
def placed : List String :=
  ["event", "timestamp", "logger", "logger_name", "stack", "exception", "exc_info", "stack_info"]

/-- The columns for the logger, if a record names one. -/
def loggerColumns (r : Record) : Except Failure (List Char) := do
  let parts ← (["logger", "logger_name"].filterMap r.fields.get?).mapM column
  return parts.flatMap fun p => ' ' :: '[' :: p ++ [']']

/-- A field that stands on lines of its own, if it holds anything. -/
def block (r : Record) (name : String) : Except Failure (Option (List Char)) :=
  match (r.fields.get? name).getD .none with
  | .none => .ok none
  | .text t => .ok (some ('\n' :: t.chars))
  | v => .error (.noContinuation v.fullKind)

/-- What stands behind the fields: the trace and the error, with a rule between them. -/
def blocks (r : Record) : Except Failure (List Char) := do
  let trace ← block r "stack"
  let failing := ((r.fields.get? "exc_info").getD .none).truthy
  let hasError := !(((r.fields.get? "exception").getD .none).equals .none)
  let rule := if trace.isSome && (failing || hasError) then
      ['\n', '\n'] ++ List.replicate 79 '=' ++ ['\n']
    else []
  let error ← block r "exception"
  return trace.getD [] ++ rule ++ error.getD []

/-- A plain line. -/
def plain (time level : String) (r : Record) : Except Failure (List Char) := do
  let event ← column r.event
  let logger ← loggerColumns r
  let fields ← (byName (r.fields.filter fun f => !placed.contains f.1)).mapM fun f => do
    return ' ' :: f.1.toList ++ '=' :: (← fieldValue f.2)
  let behind ← blocks r
  return time.toList ++ " [".toList ++ pad 9 level.toList ++ "] ".toList ++ pad 30 event ++
    logger ++ fields.flatten ++ behind

/-- A JSON line. -/
def json (time level : String) (r : Record) : Except Failure (List Char) :=
  let fields := ((r.atLevel level).put "timestamp" (.text time)).erase "stack_info"
  match Json.write Json.Style.lenient (.table (Entries.ofFields fields)) with
  | .ok cs => .ok cs
  | .error refusal => .error (.ofRefusal refusal)

end Line

/-- The lines that a printer prints for a record; none below its threshold. -/
def Printer.lines (p : Printer) (time : String) (r : Record) :
    Except Failure (List (List Char)) := do
  let (level, urgency) := operation (← Level.nameOf r.level)
  if urgency < p.threshold then return []
  r.checkNames
  let printed ← if p.asJson then Line.json time level r else Line.plain time level r
  return Text.Lines.split (printed ++ ['\n'])

end Tiered.Log
