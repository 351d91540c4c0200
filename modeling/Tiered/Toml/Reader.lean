import Tiered.Toml.Draft
import Tiered.Toml.Moment
import Tiered.Toml.Numeral

/-!
# Reader — values from a TOML document

A document is a row of statements: a header of a table or of an array of tables, or a key with its
value, and comments.  The result is the table of the whole document.
-/

namespace Tiered.Toml

mutual

/-- Reads a value. -/
def value : Nat → List Char → Reading Value
  | 0, cs => wrong .value cs
  | fuel + 1, cs =>
    match cs with
    | '"' :: _ => (string '"' cs).map fun r => (.text (.ofChars r.1), r.2)
    | '\'' :: _ => (string '\'' cs).map fun r => (.text (.ofChars r.1), r.2)
    | 't' :: 'r' :: 'u' :: 'e' :: rest => .ok (.bool true, rest)
    | 'f' :: 'a' :: 'l' :: 's' :: 'e' :: rest => .ok (.bool false, rest)
    | '[' :: rest => (skipFiller (rest.length + 1) rest).bind fun rest =>
      (items fuel rest).map fun r => (.list r.1, r.2)
    | '\x7b' :: rest => match skipGap rest with
      | '\x7d' :: rest => .ok (.table [], rest)
      | rest => (fields fuel [] [] rest).map fun r => (.table r.1, r.2)
    | cs => match moment cs with
      | some reading => reading
      | none => (numeral cs).getD (wrong .value cs)

/-- Reads the items of an array up to its closing bracket. -/
def items : Nat → List Char → Reading (List Value)
  | 0, cs => wrong .openArray cs
  | fuel + 1, cs =>
    match cs with
    | ']' :: rest => .ok ([], rest)
    | cs => (value fuel cs).bind fun (v, rest) =>
      (skipFiller (rest.length + 1) rest).bind fun rest => match rest with
        | ']' :: rest => .ok ([v], rest)
        | ',' :: rest => (skipFiller (rest.length + 1) rest).bind fun rest =>
          (items fuel rest).map fun r => (v :: r.1, r.2)
        | rest => wrong .openArray rest

/-- Reads the entries of an inline table up to its closing brace, into those before; `frozen` are
the keys of the containers among them. -/
def fields : Nat → List Key → Entries → List Char → Reading Entries
  | 0, _, _, cs => wrong .openTable cs
  | fuel + 1, frozen, before, cs =>
    (key cs).bind fun (k, rest) => match rest with
      | '=' :: rest => (value fuel (skipGap rest)).bind fun (v, rest) =>
        match Draft.assignInline frozen before k v with
        | .error what => wrong what rest
        | .ok entries => match skipGap rest with
          | '\x7d' :: rest => .ok (entries, rest)
          | ',' :: rest =>
            fields fuel (if isContainer v then k :: frozen else frozen) entries (skipGap rest)
          | rest => wrong .openTable rest
      | rest => wrong .equalsSign rest

end

/-- Fuel that no document of the given length uses up: between two values that begin at one place
the reader passes at most one bracket. -/
def fuelFor (cs : List Char) : Nat := 2 * cs.length + 2

/-- A draft, the header in force, and what is left of the document. -/
abbrev Progress := Draft × Key × List Char

/-- A change of the draft, after which a mark must follow. -/
def closing (mark : List Char) (missing : Malformation) (header : Key) (rest : List Char)
    (change : Except Malformation Draft) : Except Problem Progress :=
  match change with
  | .error what => .error (.malformed what rest)
  | .ok d =>
    if mark.isPrefixOf rest then .ok (d, header, rest.drop mark.length)
    else .error (.malformed missing rest)

/-- A header of a table. -/
def tableHeader (d : Draft) (cs : List Char) : Except Problem Progress :=
  (key (skipGap cs)).bind fun (k, rest) => closing [']'] .tableEnd k rest (d.declare k)

/-- A header of an array of tables. -/
def arrayHeader (d : Draft) (cs : List Char) : Except Problem Progress :=
  (key (skipGap cs)).bind fun (k, rest) =>
    closing [']', ']'] .tableArrayEnd k rest (d.append k)

/-- A key with its value. -/
def assignment (d : Draft) (header : Key) (cs : List Char) : Except Problem Progress :=
  (key cs).bind fun (k, rest) => match rest with
    | '=' :: rest => (value (fuelFor rest) (skipGap rest)).bind fun (v, rest) =>
      match d.assign header k v with
      | .error what => .error (.malformed what rest)
      | .ok d => .ok (d, header, rest)
    | rest => .error (.malformed .equalsSign rest)

/-- One statement, which begins with the first character. -/
def statement (d : Draft) (header : Key) (cs : List Char) : Except Problem Progress :=
  match cs with
  | '[' :: '[' :: rest => arrayHeader d.beginHeader rest
  | '[' :: rest => tableHeader d.beginHeader rest
  | '#' :: _ => .ok (d, header, cs)
  | c :: _ =>
    if isBare c || c = '"' || c = '\'' then assignment d header cs
    else .error (.malformed .statement cs)
  | [] => .ok (d, header, [])

/-- The statements, one a line. -/
def statements : Nat → Draft → Key → List Char → Except Problem Entries
  | 0, d, _, _ => .ok d.root
  | fuel + 1, d, header, cs =>
    match skipGap cs with
    | [] => .ok d.root
    | '\n' :: rest => statements fuel d header rest
    | cs => (statement d header cs).bind fun (d, header, rest) =>
      (skipComment (skipGap rest)).bind fun rest => match rest with
        | [] => .ok d.root
        | '\n' :: rest => statements fuel d header rest
        | rest => .error (.malformed .lineEnd rest)

/-- The table of a document whose line ends are line feeds. -/
def document (cs : List Char) : Except Problem Entries := statements (cs.length + 1) .empty [] cs

/-- The table of a document. -/
def read (cs : List Char) : Except Fault Entries :=
  let doc := Text.Lines.joinPairs cs
  match document doc with
  | .ok es => .ok es
  | .error (.malformed what []) => .error (.malformed what none)
  | .error (.malformed what rest) => .error (.malformed what (some (.at doc rest)))
  | .error (.overlong digits) => .error (.overlong digits)

end Tiered.Toml
