import Tiered.Failure
import Tiered.Text.Case

/-!
# Record — leveled messages with named fields

A record has a level, a message and fields.  `Record.make` adds two fields that every record has,
unless they are given: the message itself, and the event, which is what follows the first point of
the message.  Levels and messages may be values of any kind; what has no name as a level, or cannot
be asked for a point, makes no record.
-/

namespace Tiered.Log

/-- Named fields in order. -/
abbrev Fields := List (String × Value)

namespace Fields

/-- The value of a field. -/
def get? (fs : Fields) (name : String) : Option Value := fs.lookup name

/-- The fields with one set: it keeps its place if it is there and goes last if not. -/
def put : Fields → String → Value → Fields
  | [], name, v => [(name, v)]
  | f :: fs, name, v => if f.1 = name then (name, v) :: fs else f :: put fs name v

/-- The table of names and values, of which a later one under the same name counts. -/
def ofPairs (pairs : Fields) : Fields := pairs.foldl (fun fs f => fs.put f.1 f.2) []

/-- The fields with one added unless it is there. -/
def setDefault (fs : Fields) (name : String) (v : Value) : Fields :=
  if (fs.get? name).isSome then fs else fs ++ [(name, v)]

/-- The fields without one. -/
def erase (fs : Fields) (name : String) : Fields := fs.filter fun f => f.1 != name

end Fields

/-- How urgent a record is; six of the numbers have names. -/
abbrev Level := Int

namespace Level

def debug : Level := 10
def info : Level := 20
def warning : Level := 30
def error : Level := 40
def critical : Level := 50

/-- The levels that have names. -/
def named : List (Level × String) :=
  [(0, "notset"), (debug, "debug"), (info, "info"), (warning, "warning"), (error, "error"),
    (critical, "critical")]

/-- The words that stand for a level, each written in capitals. -/
def words : List (String × Level) :=
  [("CRITICAL", critical), ("FATAL", critical), ("ERROR", error), ("WARN", warning),
    ("WARNING", warning), ("INFO", info), ("DEBUG", debug), ("NOTSET", 0)]

/-- The level that a value is equal to, if it has a name. -/
def ofValue? (v : Value) : Option (Level × String) := named.find? fun l => v.equals (.int l.1)

/-- The level that a word stands for. -/
def ofWord? (v : Value) : Option Level :=
  (words.find? fun w => v.equals (.text w.1)).map Prod.snd

/-- A value behind the word for a level; a row of one stands for its item, and no other row can
stand there. -/
def numbered (v : Value) : Except Failure Text :=
  let plainly (v : Value) : Except Failure Text :=
    if Failure.hasWords v then .ok (Text.append "Level " (match v with
      | .text t => t
      | v => Failure.plain v))
    else .error (.overlong none)
  match v with
  | .tuple [] => .error (.format .noValue)
  | .tuple [item] => plainly item
  | .tuple _ => .error (.format .manyValues)
  | v => plainly v

/-- The name of a level: its own if it has one, and otherwise its number or whatever is in the place
of a number.  A word in that place stands for a number, which is no name. -/
def nameOf (v : Value) : Except Failure Text :=
  match v.unhashable? with
  | some kind => .error (.unhashable kind)
  | none => match ofValue? v with
    | some (_, name) => .ok name
    | none => match ofWord? v with
      | some level => .error (.noAttribute (.int level) "lower")
      | none => (numbered v).map Text.lower

end Level

/-- A message at a level, with its fields. -/
structure Record where
  level : Value
  message : Value
  fields : Fields
  deriving Repr

namespace Record

/-- The code point that the name of an event follows in a message. -/
def point : Code := 0x2E

/-- What follows the first point of a message; the whole message if there is no point. -/
def eventOf (message : Text) : Text :=
  match message.codes.dropWhile (· ≠ point) with
  | [] => message
  | _ :: rest => ⟨rest⟩

/-- The event of a message that may be of any kind.  A container without a point among its items is
its own event; one with a point cannot be cut. -/
def eventFor (message : Value) : Except Failure Value :=
  match message with
  | .text t => .ok (.text (eventOf t))
  | .octets _ => .error .noTextInOctets
  | message => match message.items? with
    | none => .error (.noMembers message.fullKind)
    | some items =>
      if items.any fun item => item.equals (.text ".") then
        .error (.noAttribute message "split")
      else .ok message

/-- The record of a message and its event, with the two fields that every record has. -/
def withEvent (level message event : Value) (fields : Fields) : Record :=
  ⟨level, message, (fields.setDefault "log_message" message).setDefault "event" event⟩

/-- The record of a message, if it has an event. -/
def make (level message : Value) (fields : Fields) : Except Failure Record :=
  (eventFor message).map fun event => withEvent level message event fields

/-- The event of a record: its field, or the message where the field holds nothing. -/
def event (r : Record) : Value :=
  match r.fields.get? "event" with
  | some .none => r.message
  | some v => v
  | none => r.message

/-- The fields in the order in which they are shown: the event behind all others. -/
def ordered (r : Record) : Fields := (r.fields.erase "event").put "event" r.event

/-- The fields with the name of a level. -/
def atLevel (r : Record) (level : Text) : Fields := r.ordered.put "level" (.text level)

end Record

example : Record.eventOf "a.b.c" = "b.c" ∧ Record.eventOf "plain" = "plain" := by decide

end Tiered.Log
