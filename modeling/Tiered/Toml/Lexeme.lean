import Tiered.Text.Hex
import Tiered.Toml.Malformation

/-!
# Lexeme — strings, keys and comments of a TOML document

Each reader takes what is left of the document and gives what it read with what is left then.
Strings are basic, with escapes, or literal, and each kind has a form over several lines.
-/

namespace Tiered.Toml

/-- Something that was read, and what is left. -/
abbrev Reading (α : Type) := Except Problem (α × List Char)

/-- A malformation at a place. -/
def wrong {α : Type} (what : Malformation) (rest : List Char) : Reading α :=
  .error (.malformed what rest)

/-- Spaces and tabs. -/
def isGap (c : Char) : Bool := c = ' ' || c = '\t'

/-- What follows spaces and tabs. -/
def skipGap (cs : List Char) : List Char := cs.dropWhile isGap

/-- What follows spaces, tabs and line ends. -/
def skipSpace (cs : List Char) : List Char := cs.dropWhile fun c => isGap c || c = '\n'

/-- Control characters that no line may hold: all but the tab. -/
def isControl (c : Char) : Bool := (c.toNat < 32 || c.toNat = 127) && c != '\t'

/-- Control characters that text over several lines may not hold. -/
def isControlInLines (c : Char) : Bool := isControl c && c != '\n'

/-- The characters of a bare key. -/
def isBare (c : Char) : Bool :=
  ('a' ≤ c && c ≤ 'z') || ('A' ≤ c && c ≤ 'Z') || ('0' ≤ c && c ≤ '9') || c = '-' || c = '_'

/-- What follows a comment, if there is one here. -/
def skipComment : List Char → Except Problem (List Char)
  | '#' :: cs =>
    let body := cs.takeWhile (· ≠ '\n')
    match body.dropWhile fun c => !isControl c with
    | [] => .ok (cs.drop body.length)
    | c :: rest => .error (.malformed (.found c) (c :: rest ++ cs.drop body.length))
  | cs => .ok cs

/-- What follows any number of spaces, line ends and comments. -/
def skipFiller : Nat → List Char → Except Problem (List Char)
  | 0, cs => .ok cs
  | fuel + 1, cs =>
    match skipSpace cs with
    | '#' :: rest => (skipComment ('#' :: rest)).bind (skipFiller fuel)
    | rest => .ok rest

/-- What stands before the first occurrence of a mark, and what follows the mark. -/
def splitAt? (mark : List Char) : List Char → Option (List Char × List Char)
  | [] => none
  | c :: cs =>
    if mark.isPrefixOf (c :: cs) then some ([], (c :: cs).drop mark.length)
    else (splitAt? mark cs).map fun r => (c :: r.1, r.2)

/-- The text up to a closing mark, in which some characters are forbidden. -/
def upTo (mark : List Char) (forbidden : Char → Bool) (cs : List Char) : Reading (List Char) :=
  match splitAt? mark cs with
  | none => wrong (.expected mark) []
  | some (body, rest) =>
    match body.dropWhile fun c => !forbidden c with
    | [] => .ok (body, rest)
    | c :: later => wrong (.found c) (c :: later ++ mark ++ rest)

/-- A character by its number in hexadecimal digits. -/
def hexChar (width : Nat) (cs : List Char) : Reading Char :=
  let digits := cs.take width
  match Text.Hex.value? digits with
  | none => wrong .hexDigits cs
  | some n =>
    if digits.length ≠ width then wrong .hexDigits cs
    else if n.isValidChar then .ok (Char.ofNat n, cs.drop width)
    else wrong .surrogate (cs.drop width)

/-- The character of a short escape. -/
def shortEscape? : Char → Option Char
  | 'b' => some '\x08'
  | 't' => some '\t'
  | 'n' => some '\n'
  | 'f' => some '\x0c'
  | 'r' => some '\r'
  | '"' => some '"'
  | '\\' => some '\\'
  | _ => none

/-- What an escape stands for, behind its backslash. -/
def escape : List Char → Reading (List Char)
  | [] => wrong .escape []
  | 'u' :: cs => (hexChar 4 cs).map fun r => ([r.1], r.2)
  | 'U' :: cs => (hexChar 8 cs).map fun r => ([r.1], r.2)
  | c :: cs => match shortEscape? c with
    | some d => .ok ([d], cs)
    | none => wrong .escape cs

/-- What an escape stands for in a text over several lines, where a backslash at the end of a line
joins the line to what follows it. -/
def escapeInLines : List Char → Reading (List Char)
  | '\n' :: cs => .ok ([], skipSpace cs)
  | c :: cs =>
    if isGap c then
      match skipGap cs with
      | [] => .ok ([], [])
      | '\n' :: rest => .ok ([], skipSpace rest)
      | rest => wrong .escape rest
    else escape (c :: cs)
  | [] => escape []

/-- The content of a basic string on one line, behind its opening quote. -/
def basic : Nat → List Char → Reading (List Char)
  | 0, cs => wrong .unterminated cs
  | fuel + 1, cs =>
    match cs with
    | [] => wrong .unterminated []
    | '"' :: rest => .ok ([], rest)
    | '\\' :: rest =>
      (escape rest).bind fun (front, rest) =>
        (basic fuel rest).map fun r => (front ++ r.1, r.2)
    | c :: rest =>
      if isControl c then wrong (.illegal c) (c :: rest)
      else (basic fuel rest).map fun r => (c :: r.1, r.2)

/-- The content of a basic string over several lines, up to three quotes. -/
def basicLines : Nat → List Char → Reading (List Char)
  | 0, cs => wrong .unterminated cs
  | fuel + 1, cs =>
    match cs with
    | [] => wrong .unterminated []
    | '"' :: '"' :: '"' :: rest => .ok ([], rest)
    | '\\' :: rest =>
      (escapeInLines rest).bind fun (front, rest) =>
        (basicLines fuel rest).map fun r => (front ++ r.1, r.2)
    | c :: rest =>
      if isControlInLines c then wrong (.illegal c) (c :: rest)
      else (basicLines fuel rest).map fun r => (c :: r.1, r.2)

/-- A basic string on one line, behind its opening quote. -/
def basicString (cs : List Char) : Reading (List Char) := basic (cs.length + 1) cs

/-- A literal string on one line, behind its opening quote. -/
def literalString (cs : List Char) : Reading (List Char) := upTo ['\''] isControl cs

/-- Up to two quotes before the closing three belong to the text. -/
def extraQuotes (quote : Char) (found : List Char × List Char) : List Char × List Char :=
  let extra := (found.2.take 2).takeWhile (· = quote)
  (found.1 ++ extra, found.2.drop extra.length)

/-- The text without a line end at its very beginning. -/
def dropLineEnd : List Char → List Char
  | '\n' :: cs => cs
  | cs => cs

/-- A string that opens with the given quote: over several lines if the quote stands there three
times. -/
def string (quote : Char) (cs : List Char) : Reading (List Char) :=
  if [quote, quote, quote].isPrefixOf cs then
    let body := dropLineEnd (cs.drop 3)
    if quote = '"' then (basicLines (body.length + 1) body).map (extraQuotes quote)
    else (upTo [quote, quote, quote] isControlInLines body).map (extraQuotes quote)
  else if quote = '"' then basicString (cs.drop 1)
  else literalString (cs.drop 1)

/-- One name of a key. -/
def keyPart (cs : List Char) : Reading String :=
  match cs with
  | '"' :: rest => (basicString rest).map fun r => (String.ofList r.1, r.2)
  | '\'' :: rest => (literalString rest).map fun r => (String.ofList r.1, r.2)
  | c :: _ =>
    if isBare c then .ok (String.ofList (cs.takeWhile isBare), cs.dropWhile isBare)
    else wrong .keyStart cs
  | [] => wrong .keyStart []

/-- The names of a dotted key, with gaps allowed around the points and behind the last name. -/
def keyParts : Nat → List Char → Reading Key
  | 0, cs => wrong .keyStart cs
  | fuel + 1, cs =>
    (keyPart cs).bind fun (name, rest) =>
      match skipGap rest with
      | '.' :: rest => (keyParts fuel (skipGap rest)).map fun r => (name :: r.1, r.2)
      | rest => .ok ([name], rest)

/-- A key; there is at least one name in it. -/
def key (cs : List Char) : Reading Key := keyParts (cs.length + 1) cs

end Tiered.Toml
