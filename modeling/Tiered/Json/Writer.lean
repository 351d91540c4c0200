import Tiered.Json.Literal
import Tiered.Value.Display

/-!
# Writer — values as JSON text

Tuples are written like lists, and keys that are no texts by the text of what they are.  A `Style`
says how much space there is, which characters and numbers may stand in the text, and whether a
value that JSON has no form for is written as the text of its display.  What cannot be written is
refused, at the first place where the text would need it.
-/

namespace Tiered.Json

/-- Why a value has no JSON text. -/
inductive Refusal where
  /-- A value of a kind that JSON does not have. -/
  | unserializable (kind : String)
  /-- A key of a kind that cannot be written as a text. -/
  | badKey (kind : String)
  /-- An infinity or not a number, where the style does not admit them. -/
  | nonFinite (text : String)
  /-- A whole number with too many digits. -/
  | overlong
  deriving DecidableEq, Repr

/-- The form of a JSON text. -/
structure Style where
  /-- The spaces per level of depth, each item on a line of its own, or nothing for one line. -/
  indent : Option Nat
  /-- What follows a comma on the same line. -/
  commaGap : List Char
  /-- What follows a colon. -/
  colonGap : List Char
  /-- All but ASCII is escaped. -/
  asciiOnly : Bool
  /-- Infinities and not a number have names. -/
  nonFinite : Bool
  /-- A value that JSON has no form for is written as the text of its display. -/
  displayed : Bool

namespace Style

/-- One line with a space behind commas and colons. -/
def spaced : Style := ⟨none, [' '], [' '], true, true, false⟩

/-- One line with a space behind commas and colons, where every value has a form. -/
def lenient : Style := { spaced with displayed := true }

/-- Two spaces of indent per level, and finite numbers only. -/
def indented : Style := ⟨some 2, [], [' '], true, false, false⟩

/-- One line without any space, with all printable characters as they are. -/
def dense : Style := ⟨none, [], [], false, true, false⟩

/-- The line break in front of what stands at a depth. -/
def lineBreak (style : Style) (depth : Nat) : List Char :=
  match style.indent with
  | none => []
  | some width => '\n' :: List.replicate (width * depth) ' '

end Style

/-- Numbers are written as they are shown, with the names that JSON readers know. -/
def numberLayout : Number.Layout :=
  ⟨Number.Layout.plain.least, Number.Layout.plain.greatest, Number.Layout.plain.exponentDigits,
    "NaN", "Infinity"⟩

/-- The text of a double. -/
def floatText (style : Style) (x : Number.Double) : Except Refusal (List Char) :=
  if style.nonFinite || x.isFinite then .ok (numberLayout.text x)
  else .error (.nonFinite (String.ofList (Number.Layout.plain.text x)))

/-- The text of a whole number. -/
def intText (n : Int) : Except Refusal (List Char) :=
  match Number.Decimal.text? n with
  | some text => .ok text
  | none => .error .overlong

/-- The text of a key.  Where every item stands on a line of its own, the kind of a key that is no
text is named without the place that it comes from. -/
def keyText (style : Style) : Value → Except Refusal Text
  | .text t => .ok t
  | .none => .ok "null"
  | .bool b => .ok (if b then "true" else "false")
  | .int n => (intText n).map .ofChars
  | .float x => (floatText style x).map .ofChars
  | v => .error (.badKey (if style.indent.isSome then v.kind else v.fullKind))

/-- The text of a value that JSON has no form for. -/
def displayText (style : Style) (v : Value) : Except Refusal (List Char) :=
  if style.displayed then
    match v.display? with
    | some cs => .ok (Literal.write style.asciiOnly (.ofChars cs))
    | none => .error .overlong
  else .error (.unserializable v.kind)

/-- The parts with commas between them. -/
def separate (style : Style) (depth : Nat) : List (List Char) → List Char
  | [] => []
  | [p] => p
  | p :: ps => p ++ ',' :: style.commaGap ++ style.lineBreak depth ++ separate style depth ps

/-- The parts between brackets; without parts the brackets stand side by side. -/
def bracketed (style : Style) (depth : Nat) (opening closing : Char) (parts : List (List Char)) :
    List Char :=
  if parts.isEmpty then [opening, closing]
  else opening :: style.lineBreak (depth + 1) ++ separate style (depth + 1) parts ++
    style.lineBreak depth ++ [closing]

mutual

/-- The text of a value that stands at a depth. -/
def writeAt (style : Style) (depth : Nat) : Value → Except Refusal (List Char)
  | .none => .ok "null".toList
  | .bool b => .ok (if b then "true".toList else "false".toList)
  | .int n => intText n
  | .float x => floatText style x
  | .text t => .ok (Literal.write style.asciiOnly t)
  | .list items => (writeItems style (depth + 1) items).map (bracketed style depth '[' ']')
  | .tuple items => (writeItems style (depth + 1) items).map (bracketed style depth '[' ']')
  | .table entries =>
    (writeEntries style (depth + 1) entries).map (bracketed style depth '\x7b' '\x7d')
  | .set members => displayText style (.set members)
  | .octets bytes => displayText style (.octets bytes)
  | .foreign thing => displayText style (.foreign thing)
  | .notFound => displayText style .notFound

/-- The texts of the items of a list. -/
def writeItems (style : Style) (depth : Nat) : List Value → Except Refusal (List (List Char))
  | [] => .ok []
  | v :: vs =>
    (writeAt style depth v).bind fun p => (writeItems style depth vs).map (p :: ·)

/-- The texts of the entries of a table. -/
def writeEntries (style : Style) (depth : Nat) :
    List (Value × Value) → Except Refusal (List (List Char))
  | [] => .ok []
  | (k, v) :: es =>
    (keyText style k).bind fun key =>
      (writeAt style depth v).bind fun p =>
        (writeEntries style depth es).map
          ((Literal.write style.asciiOnly key ++ ':' :: style.colonGap ++ p) :: ·)

end

/-- The JSON text of a value. -/
def write (style : Style) (v : Value) : Except Refusal (List Char) := writeAt style 0 v

/-- The message of a refusal. -/
def Refusal.message : Refusal → String
  | .unserializable kind => "Object of type " ++ kind ++ " is not JSON serializable"
  | .badKey kind => "keys must be str, int, float, bool or None, not " ++ kind
  | .nonFinite text => "Out of range float values are not JSON compliant: " ++ text
  | .overlong => Number.Decimal.overlongMessage none

end Tiered.Json
