import Tiered.Text.Basic
import Tiered.Text.Hex

/-!
# Literal — JSON strings

A literal stands in double quotes.  The quote, the backslash and the control characters are
escaped, five of them by a letter and the rest by their number.  Where only ASCII is to be written,
all other code points are escaped by their numbers, a character above U+FFFF by the two surrogates
of its pair.  So a reader cannot tell this character from the two surrogates, and it takes a pair of
numbers for the character.  A literal of any characters has no place for surrogates.
-/

namespace Tiered.Json.Literal

open Tiered.Text

/-- The letter that stands for a character behind a backslash. -/
def letter? (c : Char) : Option Char :=
  if c = '"' ∨ c = '\\' then some c
  else if c = '\n' then some 'n'
  else if c = '\r' then some 'r'
  else if c = '\t' then some 't'
  else if c = '\x08' then some 'b'
  else if c = '\x0c' then some 'f'
  else none

/-- A number below U+10000 as an escape. -/
def numeric (n : Nat) : List Char := '\\' :: 'u' :: Hex.digits 4 n

/-- What stands in a literal of ASCII for one code point. -/
def escapeCode (u : Code) : List Char :=
  let c := Char.ofNat u.val
  match letter? c with
  | some l => ['\\', l]
  | none =>
    if 32 ≤ u.val && u.val < 127 then [c]
    else if u.val < 0x10000 then numeric u.val
    else numeric (highHalf u.val) ++ numeric (lowHalf u.val)

/-- What stands in a literal of any characters for one of them. -/
def escapeChar (c : Char) : List Char :=
  match letter? c with
  | some l => ['\\', l]
  | none => if c.toNat < 32 then numeric c.toNat else [c]

/-- The literal of a text.  Of any characters, it has U+FFFD in the place of a surrogate. -/
def write (asciiOnly : Bool) (t : Text) : List Char :=
  '"' :: (if asciiOnly then t.codes.flatMap escapeCode else t.chars.flatMap escapeChar) ++ ['"']

/-- Why there is no literal at some place. -/
inductive Reason where
  | unterminated
  | badEscape
  | badNumber
  | control
  deriving DecidableEq, Repr

/-- A place without a literal: what is left of the text there, and why. -/
structure Fault where
  reason : Reason
  rest : List Char
  deriving DecidableEq, Repr

/-- The code point that a letter stands for behind a backslash. -/
def code? (c : Char) : Option Code :=
  match c with
  | '"' => some 0x22
  | '\\' => some 0x5C
  | '/' => some 0x2F
  | 'b' => some 8
  | 'f' => some 12
  | 'n' => some 10
  | 'r' => some 13
  | 't' => some 9
  | _ => none

/-- Reads the code points of a literal behind its opening quote, which `start` begins with, and
what follows the closing quote.  A numeric escape must not be the last thing in the text.  No
character of the text is a surrogate, so a low one right behind a high one is escaped as well, and
the two escapes are one character. -/
def codes (start : List Char) : List Char → Except Fault (List Code × List Char)
  | [] => .error ⟨.unterminated, start⟩
  | '"' :: rest => .ok ([], rest)
  | '\\' :: [] => .error ⟨.unterminated, start⟩
  | '\\' :: 'u' :: a :: b :: c :: d :: e :: rest =>
    match Hex.value? [a, b, c, d] with
    | none => .error ⟨.badNumber, 'u' :: a :: b :: c :: d :: e :: rest⟩
    | some n => (codes start (e :: rest)).map fun r => (joinOnto (code n) r.1, r.2)
  | '\\' :: c :: rest =>
    if c = 'u' then .error ⟨.badNumber, c :: rest⟩
    else match code? c with
      | none => .error ⟨.badEscape, '\\' :: c :: rest⟩
      | some u => (codes start rest).map fun r => (u :: r.1, r.2)
  | c :: rest =>
    if c.toNat < 32 then .error ⟨.control, c :: rest⟩
    else (codes start rest).map fun r => (code c.toNat :: r.1, r.2)

/-- Reads a literal behind its opening quote. -/
def read (start rest : List Char) : Except Fault (Text × List Char) :=
  (codes start rest).map fun r => (⟨r.1⟩, r.2)

example : write true "é\n" = "\"\\u00e9\\n\"".toList := by rfl

end Tiered.Json.Literal
