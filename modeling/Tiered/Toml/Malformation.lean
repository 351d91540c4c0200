import Tiered.Text.Lines
import Tiered.Value.Display

/-!
# Malformation — what can be wrong with a TOML document

A malformation says what was expected or forbidden, and the place is given by what is left of the
document there.  In words, a place is a line and a column, or the end of the document.
-/

namespace Tiered.Toml

/-- The names of a dotted key. -/
abbrev Key := List String

/-- What is wrong at some place of a document. -/
inductive Malformation where
  /-- A closing mark is not there. -/
  | expected (mark : List Char)
  /-- A control character in a comment or a literal string. -/
  | found (c : Char)
  /-- A control character in a basic string. -/
  | illegal (c : Char)
  | statement
  | lineEnd
  | keyStart
  | equalsSign
  | tableEnd
  | tableArrayEnd
  | openArray
  | openTable
  | declaredTwice (key : Key)
  | overwritten
  | reopened (key : Key)
  | immutable (key : Key)
  | duplicate (name : String)
  | escape
  | hexDigits
  | surrogate
  | unterminated
  | date
  | value
  deriving DecidableEq, Repr

/-- Why a document was not read: it is malformed, with what is left of it there, or a whole number
has too many digits. -/
inductive Problem where
  | malformed (what : Malformation) (rest : List Char)
  | overlong (digits : Nat)
  deriving DecidableEq, Repr

/-- Why a document was not read, with the place in it, which may be its end. -/
inductive Fault where
  | malformed (what : Malformation) (place : Option Text.Lines.Place)
  | overlong (digits : Nat)
  deriving DecidableEq, Repr

/-- A key as it is shown. -/
def showKey (key : Key) : String := Value.shown (.tuple (key.map fun (name : String) => .text name))

/-- A text as it is shown. -/
def showText (cs : List Char) : String := String.ofList (Text.Quoted.literal (.ofChars cs))

/-- What is wrong, in words. -/
def Malformation.text : Malformation → String
  | expected mark => "Expected " ++ showText mark
  | found c => "Found invalid character " ++ showText [c]
  | illegal c => "Illegal character " ++ showText [c]
  | statement => "Invalid statement"
  | lineEnd => "Expected newline or end of document after a statement"
  | keyStart => "Invalid initial character for a key part"
  | equalsSign => "Expected '=' after a key in a key/value pair"
  | tableEnd => "Expected ']' at the end of a table declaration"
  | tableArrayEnd => "Expected ']]' at the end of an array declaration"
  | openArray => "Unclosed array"
  | openTable => "Unclosed inline table"
  | declaredTwice key => "Cannot declare " ++ showKey key ++ " twice"
  | overwritten => "Cannot overwrite a value"
  | reopened key => "Cannot redefine namespace " ++ showKey key
  | immutable key => "Cannot mutate immutable namespace " ++ showKey key
  | duplicate name => "Duplicate inline table key " ++ showText name.toList
  | escape => "Unescaped '\\' in a string"
  | hexDigits => "Invalid hex value"
  | surrogate => "Escaped character is not a Unicode scalar value"
  | unterminated => "Unterminated string"
  | date => "Invalid date or datetime"
  | value => "Invalid value"

/-- A place, in words. -/
def placeText : Option Text.Lines.Place → String
  | none => "at end of document"
  | some p => "at line " ++ toString p.line ++ ", column " ++ toString p.column

/-- What is wrong and where, in words. -/
def Malformation.message (what : Malformation) (place : Option Text.Lines.Place) : String :=
  what.text ++ " (" ++ placeText place ++ ")"

end Tiered.Toml
