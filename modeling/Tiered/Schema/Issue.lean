import Tiered.Value.Display

/-!
# Issue — what is wrong with the fields of a record

An issue names a field, says what is wrong with it and shows the input.  A display that takes more
than fifty octets is shown by its two ends.  A report collects the issues of one record.
-/

namespace Tiered.Schema

/-- What is wrong with an input. -/
inductive Complaint where
  /-- A required field is not there. -/
  | missing
  /-- Not a text. -/
  | textType
  /-- Octets that are no text. -/
  | textEncoding
  /-- Not of a kind that can be a truth value. -/
  | flagType
  /-- Of such a kind, but no truth value. -/
  | flagContent
  /-- A text without a character that is not white space. -/
  | blank
  /-- Not the name of a tier. -/
  | tierName
  /-- Not a table of fields. -/
  | tableType
  /-- Not a JSON object. -/
  | objectType
  /-- Fields of the record cannot be assigned. -/
  | frozen
  deriving DecidableEq, Repr

namespace Complaint

/-- The short name of a complaint. -/
def code : Complaint → String
  | missing => "missing"
  | textType => "string_type"
  | textEncoding => "string_unicode"
  | flagType => "bool_type"
  | flagContent => "bool_parsing"
  | blank => "value_error"
  | tierName => "enum"
  | tableType => "model_type"
  | objectType => "model_type"
  | frozen => "frozen_instance"

/-- The words for a complaint about a record with the given title. -/
def text (title : String) : Complaint → String
  | missing => "Field required"
  | textType => "Input should be a valid string"
  | textEncoding =>
    "Input should be a valid string, unable to parse raw data as a unicode string"
  | flagType => "Input should be a valid boolean"
  | flagContent => "Input should be a valid boolean, unable to interpret input"
  | blank => "Value error, Value must not be empty"
  | tierName => "Input should be 'snapshot', 'environment' or 'none'"
  | tableType => "Input should be a valid dictionary or instance of " ++ title
  | objectType => "Input should be an object"
  | frozen => "Instance is frozen"

end Complaint

/-- A complaint about a field, or about the record as a whole, with the input. -/
structure Issue where
  field : Option String
  complaint : Complaint
  input : Value
  deriving Repr

/-- The issues of a record with the given title. -/
structure Report where
  title : String
  issues : List Issue
  deriving Repr

/-- The longest part in front that takes at most the given number of octets. -/
def takeOctets : Nat → List Char → List Char
  | _, [] => []
  | n, c :: cs =>
    let size := (Text.Utf8.encodeChar c).length
    if size ≤ n then c :: takeOctets (n - size) cs else []

/-- The most octets that a display may take. -/
def displayLimit : Nat := 50

/-- The display, or its two ends if it takes too many octets. -/
def abridge (cs : List Char) : List Char :=
  if Text.Utf8.size cs ≤ displayLimit then cs
  else takeOctets 25 cs ++ "...".toList ++ (takeOctets 24 cs.reverse).reverse

/-- An input as an issue shows it. -/
def Issue.shown (i : Issue) : String :=
  String.ofList (abridge ((Value.display? i.input).getD
    ("<unprintable ".toList ++ i.input.kind.toList ++ " object>".toList)))

/-- The lines of an issue: its field, if it has one, and what is wrong. -/
def Issue.message (title : String) (i : Issue) : String :=
  let field := match i.field with
    | some name => "\n" ++ name
    | none => ""
  field ++ "\n  " ++ i.complaint.text title ++ " [type=" ++ i.complaint.code ++
    ", input_value=" ++ i.shown ++ ", input_type=" ++ i.input.kind ++ "]"

/-- The message of a report: a headline and the lines of every issue. -/
def Report.message (r : Report) : String :=
  toString r.issues.length ++ " validation error" ++ (if r.issues.length = 1 then "" else "s") ++
    " for " ++ r.title ++ String.join (r.issues.map (Issue.message r.title))

end Tiered.Schema
