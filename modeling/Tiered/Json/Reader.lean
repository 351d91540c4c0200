import Tiered.Json.Literal
import Tiered.Number.Reading
import Tiered.Text.Lines
import Tiered.Value.Entries

/-!
# Reader — values from JSON text

The reader takes one value with white space around it.  Beside standard JSON it knows the names of
the infinities and of not a number.  A whole number has no point and no exponent and may not be
overlong; of several entries under one key the last gives the value and the first the place.  Where
the text is malformed, the reader says what it expected and where.
-/

namespace Tiered.Json

/-- What is wrong at some place of a text. -/
inductive Malformation where
  | byteOrderMark
  | expectedValue
  | expectedName
  | expectedColon
  | expectedComma
  | extraData
  | literal (reason : Literal.Reason)
  deriving DecidableEq, Repr

/-- Why a text was not read: it is malformed, with what is left of it there, or a whole number has
too many digits. -/
inductive Problem where
  | malformed (what : Malformation) (rest : List Char)
  | overlong (digits : Nat)
  deriving DecidableEq, Repr

/-- Why a text was not read, with the place in it. -/
inductive Fault where
  | malformed (what : Malformation) (place : Text.Lines.Place)
  | overlong (digits : Nat)
  deriving DecidableEq, Repr

/-- The white space of JSON. -/
def isSpace (c : Char) : Bool := c = ' ' || c = '\t' || c = '\n' || c = '\r'

/-- What follows the white space in front. -/
def skipSpace (cs : List Char) : List Char := cs.dropWhile isSpace

/-- The digits of the whole part of a number: a zero alone, or digits that begin with another. -/
def wholeDigits? : List Char → Option (List Char × List Char)
  | '0' :: rest => some (['0'], rest)
  | cs => match Number.Reading.digits cs with
    | ([], _) => none
    | found => some found

/-- The digits behind a point; a point without digits is left standing. -/
def fractionDigits (cs : List Char) : List Char × List Char :=
  match cs with
  | '.' :: rest => match Number.Reading.digits rest with
    | ([], _) => ([], cs)
    | found => found
  | _ => ([], cs)

/-- The exponent behind its mark; a mark without digits is left standing. -/
def exponentPart (cs : List Char) : Option Int × List Char :=
  match cs with
  | c :: rest =>
    if c = 'e' ∨ c = 'E' then
      let (negative, rest) := Number.Reading.sign rest
      match Number.Reading.digits rest with
      | ([], _) => (none, cs)
      | (ds, rest) =>
        let size : Int := Number.Decimal.value ds
        (some (if negative then -size else size), rest)
    else (none, cs)
  | [] => (none, cs)

/-- A number: a double if it has a point or an exponent, a whole number otherwise. -/
def number (cs : List Char) : Except Problem (Value × List Char) :=
  let (negative, body) := match cs with
    | '-' :: rest => (true, rest)
    | rest => (false, rest)
  match wholeDigits? body with
  | none => .error (.malformed .expectedValue cs)
  | some (whole, rest) =>
    let (fraction, rest) := fractionDigits rest
    let (exponent?, rest) := exponentPart rest
    if fraction.isEmpty && exponent?.isNone then
      if Number.Decimal.maxDigits < whole.length then .error (.overlong whole.length)
      else
        let size : Int := Number.Decimal.value whole
        .ok (.int (if negative then -size else size), rest)
    else
      let parts : Number.Reading.Parts := ⟨whole, fraction, exponent?.getD 0⟩
      .ok (.float (parts.toDouble negative), rest)

/-- A literal behind its opening quote. -/
def literal (start rest : List Char) : Except Problem (Text × List Char) :=
  match Literal.read start rest with
  | .ok found => .ok found
  | .error fault => .error (.malformed (.literal fault.reason) fault.rest)

mutual

/-- Reads a value, and says what follows it. -/
def value : Nat → List Char → Except Problem (Value × List Char)
  | 0, cs => .error (.malformed .expectedValue cs)
  | fuel + 1, cs =>
    match cs with
    | '"' :: rest => (literal cs rest).map fun r => (.text r.1, r.2)
    | '\x7b' :: rest =>
      match skipSpace rest with
      | '\x7d' :: rest => .ok (.table [], rest)
      | rest => (members fuel [] rest).map fun r => (.table r.1, r.2)
    | '[' :: rest =>
      match skipSpace rest with
      | ']' :: rest => .ok (.list [], rest)
      | rest => (items fuel rest).map fun r => (.list r.1, r.2)
    | 'n' :: 'u' :: 'l' :: 'l' :: rest => .ok (.none, rest)
    | 't' :: 'r' :: 'u' :: 'e' :: rest => .ok (.bool true, rest)
    | 'f' :: 'a' :: 'l' :: 's' :: 'e' :: rest => .ok (.bool false, rest)
    | 'N' :: 'a' :: 'N' :: rest => .ok (.float .nan, rest)
    | 'I' :: 'n' :: 'f' :: 'i' :: 'n' :: 'i' :: 't' :: 'y' :: rest =>
      .ok (.float (.infinite false), rest)
    | '-' :: 'I' :: 'n' :: 'f' :: 'i' :: 'n' :: 'i' :: 't' :: 'y' :: rest =>
      .ok (.float (.infinite true), rest)
    | _ => number cs

/-- Reads the items of a list up to its closing bracket; there is at least one. -/
def items : Nat → List Char → Except Problem (List Value × List Char)
  | 0, cs => .error (.malformed .expectedValue cs)
  | fuel + 1, cs =>
    (value fuel cs).bind fun (v, rest) =>
      match skipSpace rest with
      | ']' :: rest => .ok ([v], rest)
      | ',' :: rest => (items fuel (skipSpace rest)).map fun r => (v :: r.1, r.2)
      | rest => .error (.malformed .expectedComma rest)

/-- Reads the entries of a table up to its closing brace, and writes them into those before; there
is at least one. -/
def members : Nat → Entries → List Char → Except Problem (Entries × List Char)
  | 0, _, cs => .error (.malformed .expectedName cs)
  | fuel + 1, before, cs =>
    match cs with
    | '"' :: rest =>
      (literal cs rest).bind fun (key, rest) =>
        match skipSpace rest with
        | ':' :: rest =>
          (value fuel (skipSpace rest)).bind fun (v, rest) =>
            let entries := Entries.put before (.text key) v
            match skipSpace rest with
            | '\x7d' :: rest => .ok (entries, rest)
            | ',' :: rest => members fuel entries (skipSpace rest)
            | rest => .error (.malformed .expectedComma rest)
        | rest => .error (.malformed .expectedColon rest)
    | _ => .error (.malformed .expectedName cs)

end

/-- Fuel that no text of the given length uses up: between two values that begin at one place the
reader passes at most one bracket. -/
def fuelFor (cs : List Char) : Nat := 2 * cs.length + 2

/-- Reads a whole text. -/
def document (cs : List Char) : Except Problem Value :=
  match cs with
  | '\ufeff' :: _ => .error (.malformed .byteOrderMark cs)
  | _ =>
    (value (fuelFor cs) (skipSpace cs)).bind fun (v, rest) =>
      match skipSpace rest with
      | [] => .ok v
      | rest => .error (.malformed .extraData rest)

/-- The value that a text is read as. -/
def read (cs : List Char) : Except Fault Value :=
  match document cs with
  | .ok v => .ok v
  | .error (.malformed what rest) => .error (.malformed what (.at cs rest))
  | .error (.overlong digits) => .error (.overlong digits)

/-- What is wrong, in words. -/
def Malformation.text : Malformation → String
  | .byteOrderMark => "Unexpected UTF-8 BOM (decode using utf-8-sig)"
  | .expectedValue => "Expecting value"
  | .expectedName => "Expecting property name enclosed in double quotes"
  | .expectedColon => "Expecting ':' delimiter"
  | .expectedComma => "Expecting ',' delimiter"
  | .extraData => "Extra data"
  | .literal .unterminated => "Unterminated string starting at"
  | .literal .badEscape => "Invalid \\escape"
  | .literal .badNumber => "Invalid \\uXXXX escape"
  | .literal .control => "Invalid control character at"

/-- What is wrong and where, in words. -/
def Malformation.message (what : Malformation) (place : Text.Lines.Place) : String :=
  what.text ++ ": line " ++ toString place.line ++ " column " ++ toString place.column ++
    " (char " ++ toString place.offset ++ ")"

end Tiered.Json
