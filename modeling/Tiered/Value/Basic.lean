import Tiered.Number.Double
import Tiered.Text.Utf8

/-!
# Value — what a variable may hold

A value is plain data (nothing, a truth value, a number, a text, octets), a container of values, a
thing from outside that is only known by name, or the mark that a look-up found nothing.  Tables
keep their entries in order and may have keys of any kind.
-/

namespace Tiered

/-- A thing from outside: it is equal only to itself, and has a kind and a printed form. -/
structure Foreign where
  name : String
  /-- The name of its kind. -/
  kind : String
  /-- The name of its kind with the place in front that the kind comes from, if it has one. -/
  fullKind : String
  printed : String
  /-- It can be walked through like a container, and is empty. -/
  walkable : Bool
  /-- The name of the kind that it is itself, if it is one. -/
  names? : Option String
  deriving DecidableEq, Repr

/-- What a variable may hold. -/
inductive Value where
  | none
  | bool (b : Bool)
  | int (n : Int)
  | float (x : Number.Double)
  | text (t : Text)
  | octets (bytes : Text.Utf8.Octets)
  | list (items : List Value)
  | tuple (items : List Value)
  | set (members : List Value)
  | table (entries : List (Value × Value))
  | foreign (thing : Foreign)
  | notFound
  deriving Repr, Inhabited

/-- The entries of a table, in order. -/
abbrev Entries := List (Value × Value)

namespace Value

/-- The name of a value's kind, as it is shown to users. -/
def kind : Value → String
  | none => "NoneType"
  | bool _ => "bool"
  | int _ => "int"
  | float _ => "float"
  | text _ => "str"
  | octets _ => "bytes"
  | list _ => "list"
  | tuple _ => "tuple"
  | set _ => "set"
  | table _ => "dict"
  | foreign thing => thing.kind
  | notFound => "_NotFound"

/-- The name of a value's kind with the place in front that the kind comes from. -/
def fullKind : Value → String
  | foreign thing => thing.fullKind
  | v => v.kind

/-- The name of the mark for absence. -/
def absenceName : String := "NOT_FOUND"

/-- The text that a value is, if it is one. -/
def text? : Value → Option Text
  | text t => some t
  | _ => Option.none

/-- Whole numbers that fit a signed word of 64 bits. -/
def fitsWord (n : Int) : Bool := -(Nat.pow 2 63 : Int) ≤ n && n < (Nat.pow 2 63 : Int)

/-- A value counts as true unless it is nothing, false, a zero, empty, or the mark for absence. -/
def truthy : Value → Bool
  | none => false
  | bool b => b
  | int n => n ≠ 0
  | float x => !x.equals .zero
  | text t => !t.isEmpty
  | octets bytes => !bytes.isEmpty
  | list items => !items.isEmpty
  | tuple items => !items.isEmpty
  | set members => !members.isEmpty
  | table entries => !entries.isEmpty
  | foreign _ => true
  | notFound => false

mutual

/-- The kind of the first part that keeps a value from being a key: lists, sets and tables can
change in place, and a tuple is a key only when all its items are. -/
def unhashable? : Value → Option String
  | list _ => some "list"
  | set _ => some "set"
  | table _ => some "dict"
  | tuple items => firstUnhashable? items
  | _ => Option.none

/-- The first such part among several values. -/
def firstUnhashable? : List Value → Option String
  | [] => Option.none
  | v :: rest => match unhashable? v with
    | some kind => some kind
    | Option.none => firstUnhashable? rest

end

theorem unhashable?_text (t : Text) : unhashable? (text t) = Option.none := rfl

end Value

end Tiered
