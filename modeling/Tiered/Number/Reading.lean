import Tiered.Number.Double
import Tiered.Text.Blank
import Tiered.Text.Digit

/-!
# Reading — numbers from decimal text

A decimal text has a sign, digits with an optional point, and an optional exponent; it may also be
the name of an infinity or of not a number, in any case.  A whole number has a sign and digits.  The
digits may be those of any script, and white space around the text and single underscores between
digits are passed over.
-/

namespace Tiered.Number.Reading

/-- The parts of an unsigned decimal: the digits before and behind the point and the exponent. -/
structure Parts where
  whole : List Char
  fraction : List Char
  exponent : Int
  deriving DecidableEq, Repr

/-- The double nearest to the parts. -/
def Parts.toDouble (negative : Bool) (p : Parts) : Double :=
  Double.ofDecimal negative (Decimal.value (p.whole ++ p.fraction))
    (p.exponent - p.fraction.length)

/-- A sign, and what follows it. -/
def sign : List Char → Bool × List Char
  | '-' :: rest => (true, rest)
  | '+' :: rest => (false, rest)
  | rest => (false, rest)

/-- The digits in front, and what follows them. -/
def digits (cs : List Char) : List Char × List Char :=
  (cs.takeWhile Decimal.isDigit, cs.dropWhile Decimal.isDigit)

/-- The exponent behind the mark `e`, or nothing unless the whole text is one. -/
def exponent? : List Char → Option Int
  | [] => some 0
  | c :: rest =>
    if c ≠ 'e' ∧ c ≠ 'E' then none
    else
      let (negative, rest) := sign rest
      if rest.isEmpty || !rest.all Decimal.isDigit then none
      else some (if negative then -(Decimal.value rest : Int) else Decimal.value rest)

/-- The parts of an unsigned decimal text. -/
def parts? (cs : List Char) : Option Parts :=
  let (whole, rest) := digits cs
  let (fraction, rest) := match rest with
    | '.' :: rest => digits rest
    | rest => ([], rest)
  if whole.isEmpty && fraction.isEmpty then none
  else (exponent? rest).map fun e => ⟨whole, fraction, e⟩

/-- The text without underscores, each of which must stand between two digits. -/
def withoutUnderscores? : List Char → Option (List Char)
  | [] => some []
  | '_' :: _ => none
  | c :: '_' :: d :: rest =>
    if Decimal.isDigit c && Decimal.isDigit d then
      (withoutUnderscores? (d :: rest)).map (c :: ·)
    else none
  | c :: rest => (withoutUnderscores? rest).map (c :: ·)

/-- A text without the white space around it, and with ASCII digits for those of any script. -/
def plain (cs : List Char) : List Char := (Text.trim cs).map Text.asciiDigit

/-- The double that a text names, or nothing if it names none. -/
def double? (cs : List Char) : Option Double :=
  let (negative, rest) := sign (plain cs)
  match String.ofList (rest.map Char.toLower) with
  | "nan" => some .nan
  | "inf" => some (.infinite negative)
  | "infinity" => some (.infinite negative)
  | _ => (withoutUnderscores? rest).bind parts? |>.map (Parts.toDouble negative)

/-- The whole number that a text names, or nothing if it names none. -/
def whole? (cs : List Char) : Option Int :=
  let (negative, rest) := sign (plain cs)
  (withoutUnderscores? rest).bind fun ds =>
    if ds.isEmpty || !ds.all Decimal.isDigit then none
    else
      let size : Int := Decimal.value ds
      some (if negative then -size else size)

end Tiered.Number.Reading
