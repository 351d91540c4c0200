import Tiered.Text.Basic
import Tiered.Text.Hex
import Tiered.Text.Printable

/-!
# Quoted — texts and byte strings as quoted literals

A literal stands in apostrophes, or in double quotes when it holds an apostrophe and no double
quote.  Inside, the backslash and the quote in use are escaped, line feed, carriage return and tab
have short escapes, and whatever is unprintable, a lone surrogate among it, is written by its number
in hexadecimal: two digits up to U+00FF, four up to U+FFFF, eight above.
-/

namespace Tiered.Text.Quoted

/-- The quote that a literal of the given code points stands in. -/
def quoteFor (codes : List Nat) : Char :=
  if codes.contains '\''.toNat && !codes.contains '"'.toNat then '"' else '\''

/-- The escapes that a text and a byte string share, or nothing for a character that has none. -/
def shortEscape? (quote c : Char) : Option (List Char) :=
  if c = quote ∨ c = '\\' then some ['\\', c]
  else if c = '\n' then some ['\\', 'n']
  else if c = '\r' then some ['\\', 'r']
  else if c = '\t' then some ['\\', 't']
  else none

/-- A code point by its number, in as many digits as its size asks for. -/
def numericEscape (code : Nat) : List Char :=
  if code < 0x100 then '\\' :: 'x' :: Hex.digits 2 code
  else if code < 0x10000 then '\\' :: 'u' :: Hex.digits 4 code
  else '\\' :: 'U' :: Hex.digits 8 code

/-- What stands in a literal for one character of the text. -/
def escape (quote c : Char) : List Char :=
  match shortEscape? quote c with
  | some short => short
  | none => if isPrintable c then [c] else numericEscape c.toNat

/-- What stands in a literal for one code point of the text. -/
def escapeCode (quote : Char) (code : Nat) : List Char :=
  match char? code with
  | some c => escape quote c
  | none => numericEscape code

/-- The literal of a text. -/
def literal (t : Text) : List Char :=
  let quote := quoteFor t.numbers
  quote :: t.numbers.flatMap (escapeCode quote) ++ [quote]

/-- What stands in a byte literal for one byte: ASCII graphics and the space as they are. -/
def escapeByte (quote : Char) (b : UInt8) : List Char :=
  let c := Char.ofNat b.toNat
  match shortEscape? quote c with
  | some short => short
  | none => if 32 ≤ b && b < 127 then [c] else '\\' :: 'x' :: Hex.digits 2 b.toNat

/-- The literal of a byte string, marked by a leading `b`. -/
def byteLiteral (bytes : List UInt8) : List Char :=
  let quote := quoteFor (bytes.map UInt8.toNat)
  'b' :: quote :: bytes.flatMap (escapeByte quote) ++ [quote]

example : literal "it's" = "\"it's\"".toList := by decide

example : literal ⟨[0xD800, 0x78]⟩ = "'\\ud800x'".toList := by decide

example : byteLiteral [0x27, 0x22, 0xFF] = "b'\\'\"\\xff'".toList := by decide

end Tiered.Text.Quoted
