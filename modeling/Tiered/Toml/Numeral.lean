import Tiered.Number.Reading
import Tiered.Toml.Lexeme

/-!
# Numeral — numbers in a TOML document

Whole numbers are decimal, with an optional sign, or hexadecimal, octal or binary behind a mark.  A
decimal with a point or an exponent is a double.  Single underscores may stand between digits.
-/

namespace Tiered.Toml

/-- Digits with single underscores between them: the digits, and what follows. -/
def grouped (isDigit : Char → Bool) : List Char → List Char × List Char
  | c :: '_' :: d :: rest =>
    if !isDigit c then ([], c :: '_' :: d :: rest)
    else if isDigit d then
      let found := grouped isDigit (d :: rest)
      (c :: found.1, found.2)
    else ([c], '_' :: d :: rest)
  | c :: rest =>
    if isDigit c then
      let found := grouped isDigit rest
      (c :: found.1, found.2)
    else ([], c :: rest)
  | [] => ([], [])

/-- The digits of base sixteen, eight and two. -/
def isDigitOf (base : Nat) (c : Char) : Bool :=
  match Text.Hex.digit? c with
  | some d => d < base
  | none => false

/-- The number that digits make in a base. -/
def valueOf (base : Nat) (ds : List Char) : Nat :=
  ds.foldl (fun n c => base * n + (Text.Hex.digit? c).getD 0) 0

/-- A whole number behind the mark of its base. -/
def marked? (base : Nat) (cs : List Char) : Option (Value × List Char) :=
  match grouped (isDigitOf base) cs with
  | ([], _) => none
  | (ds, rest) => some (.int (valueOf base ds), rest)

/-- A whole number that begins with the mark of a base. -/
def based? : List Char → Option (Value × List Char)
  | '0' :: 'x' :: cs => marked? 16 cs
  | '0' :: 'o' :: cs => marked? 8 cs
  | '0' :: 'b' :: cs => marked? 2 cs
  | _ => none

/-- The digits in front of a decimal: a zero alone, or digits that begin with another. -/
def wholeDigits? : List Char → Option (List Char × List Char)
  | '0' :: rest => some (['0'], rest)
  | cs => match grouped Number.Decimal.isDigit cs with
    | ([], _) => none
    | found => some found

/-- The digits behind a point; a point without digits is left standing. -/
def fraction (cs : List Char) : List Char × List Char :=
  match cs with
  | '.' :: rest => match grouped Number.Decimal.isDigit rest with
    | ([], _) => ([], cs)
    | found => found
  | _ => ([], cs)

/-- The exponent behind its mark; a mark without digits is left standing. -/
def exponent (cs : List Char) : Option Int × List Char :=
  match cs with
  | c :: rest =>
    if c = 'e' ∨ c = 'E' then
      let (negative, rest) := Number.Reading.sign rest
      match grouped Number.Decimal.isDigit rest with
      | ([], _) => (none, cs)
      | (ds, rest) =>
        let size : Int := Number.Decimal.value ds
        (some (if negative then -size else size), rest)
    else (none, cs)
  | [] => (none, cs)

/-- A decimal number, or nothing if none begins here. -/
def decimal (cs : List Char) : Option (Reading Value) :=
  let (negative, body) := Number.Reading.sign cs
  (wholeDigits? body).map fun (whole, rest) =>
    let (behind, rest) := fraction rest
    let (power, rest) := exponent rest
    if behind.isEmpty && power.isNone then
      if Number.Decimal.maxDigits < whole.length then .error (.overlong whole.length)
      else
        let size : Int := Number.Decimal.value whole
        .ok (.int (if negative then -size else size), rest)
    else
      let parts : Number.Reading.Parts := ⟨whole, behind, power.getD 0⟩
      .ok (.float (parts.toDouble negative), rest)

/-- An infinity or not a number, by name. -/
def special? (cs : List Char) : Option (Value × List Char) :=
  let (negative, body) := Number.Reading.sign cs
  match body with
  | 'i' :: 'n' :: 'f' :: rest => some (.float (.infinite negative), rest)
  | 'n' :: 'a' :: 'n' :: rest => some (.float .nan, rest)
  | _ => none

/-- A number that begins here. -/
def numeral (cs : List Char) : Option (Reading Value) :=
  match based? cs with
  | some found => some (.ok found)
  | none => match decimal cs with
    | some reading => some reading
    | none => (special? cs).map .ok

end Tiered.Toml
