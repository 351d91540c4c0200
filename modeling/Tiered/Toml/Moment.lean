import Tiered.Toml.Lexeme

/-!
# Moment — dates and times in a TOML document

A moment is a date, a time of day, or both, and then perhaps with an offset from universal time.
A date must exist in the calendar.  Documents only carry moments along, so a moment becomes a thing
from outside, with its kind and its printed form.
-/

namespace Tiered.Toml

/-- A date of the calendar. -/
structure Date where
  year : Nat
  month : Nat
  day : Nat
  deriving DecidableEq, Repr

/-- A time of day, down to the millionth of a second. -/
structure Clock where
  hour : Nat
  minute : Nat
  second : Nat
  micros : Nat
  deriving DecidableEq, Repr

/-- A date, a time of day, or both; with both there may be an offset in minutes. -/
inductive Moment where
  | date (d : Date)
  | clock (c : Clock)
  | both (d : Date) (c : Clock) (offset : Option Int)
  deriving DecidableEq, Repr

/-- A year with a day in February more than others. -/
def isLeap (year : Nat) : Bool := year % 4 = 0 && (year % 100 ≠ 0 || year % 400 = 0)

/-- How many days a month has. -/
def daysIn (year month : Nat) : Nat :=
  if month = 2 then (if isLeap year then 29 else 28)
  else if month = 4 || month = 6 || month = 9 || month = 11 then 30
  else 31

/-- The date exists in the calendar, which begins with the year one. -/
def Date.exists (d : Date) : Bool := 1 ≤ d.year && d.day ≤ daysIn d.year d.month

/-- A number of exactly so many digits, within bounds. -/
def fixedNumber? (width least most : Nat) (cs : List Char) : Option (Nat × List Char) :=
  let ds := (cs.take width).takeWhile Number.Decimal.isDigit
  let n := Number.Decimal.value ds
  if ds.length = width ∧ least ≤ n ∧ n ≤ most then some (n, cs.drop width) else none

/-- What follows a given character. -/
def after? (c : Char) : List Char → Option (List Char)
  | d :: cs => if d = c then some cs else none
  | [] => none

/-- The parts of a second, down to the millionth, behind a point. -/
def micros (cs : List Char) : Nat × List Char :=
  match cs with
  | '.' :: rest =>
    let ds := rest.takeWhile Number.Decimal.isDigit
    let kept := ds.take 6
    if ds.isEmpty then (0, cs)
    else (Number.Decimal.value (kept ++ List.replicate (6 - kept.length) '0'), rest.drop ds.length)
  | _ => (0, cs)

/-- A time of day. -/
def clock? (cs : List Char) : Option (Clock × List Char) := do
  let (hour, cs) ← fixedNumber? 2 0 23 cs
  let (minute, cs) ← fixedNumber? 2 0 59 (← after? ':' cs)
  let (second, cs) ← fixedNumber? 2 0 59 (← after? ':' cs)
  let (parts, cs) := micros cs
  return (⟨hour, minute, second, parts⟩, cs)

/-- An offset from universal time: the letter Z, or a sign with hours and minutes. -/
def offset? : List Char → Option (Int × List Char)
  | [] => none
  | c :: cs =>
    if c = 'Z' ∨ c = 'z' then some (0, cs)
    else if c = '+' ∨ c = '-' then do
      let (hours, cs) ← fixedNumber? 2 0 23 cs
      let (minutes, cs) ← fixedNumber? 2 0 59 (← after? ':' cs)
      let size : Int := hours * 60 + minutes
      return (if c = '-' then -size else size, cs)
    else none

/-- A date, whether or not it exists. -/
def date? (cs : List Char) : Option (Date × List Char) := do
  let (year, cs) ← fixedNumber? 4 0 9999 cs
  let (month, cs) ← fixedNumber? 2 1 12 (← after? '-' cs)
  let (day, cs) ← fixedNumber? 2 1 31 (← after? '-' cs)
  return (⟨year, month, day⟩, cs)

/-- The time of day that may follow a date behind the letter T or a space. -/
def clockAfterDate? : List Char → Option (Clock × List Char)
  | c :: cs => if c = 'T' ∨ c = 't' ∨ c = ' ' then clock? cs else none
  | [] => none

/-- A moment that begins here. -/
def moment? (cs : List Char) : Option (Moment × List Char) :=
  match date? cs with
  | none => (clock? cs).map fun r => (.clock r.1, r.2)
  | some (d, rest) => match clockAfterDate? rest with
    | none => some (.date d, rest)
    | some (c, rest) => match offset? rest with
      | none => some (.both d c none, rest)
      | some (minutes, rest) => some (.both d c (some minutes), rest)

namespace Moment

/-- The date in it, if there is one, exists. -/
def isValid : Moment → Bool
  | date d => d.exists
  | clock _ => true
  | both d _ _ => d.exists

/-- The kind of a moment. -/
def kind : Moment → String
  | date _ => "date"
  | clock _ => "time"
  | both _ _ _ => "datetime"

/-- The numbers of a time of day, without zeros at the end from the seconds on. -/
def clockNumbers (c : Clock) : List Nat :=
  if c.micros ≠ 0 then [c.hour, c.minute, c.second, c.micros]
  else if c.second ≠ 0 then [c.hour, c.minute, c.second]
  else [c.hour, c.minute]

/-- The numbers of a date. -/
def dateNumbers (d : Date) : List Nat := [d.year, d.month, d.day]

/-- Numbers with commas between them. -/
def listed (ns : List Nat) : String := String.intercalate ", " (ns.map toString)

/-- An offset as it is printed: days are borrowed so that the seconds are not negative. -/
def offsetText (minutes : Int) : String :=
  let seconds := toString ((minutes * 60) % 86400)
  if minutes = 0 then "datetime.timezone.utc"
  else if 0 < minutes then "datetime.timezone(datetime.timedelta(seconds=" ++ seconds ++ "))"
  else "datetime.timezone(datetime.timedelta(days=-1, seconds=" ++ seconds ++ "))"

/-- A moment as it is printed. -/
def printed : Moment → String
  | date d => "datetime.date(" ++ listed (dateNumbers d) ++ ")"
  | clock c => "datetime.time(" ++ listed (clockNumbers c) ++ ")"
  | both d c offset =>
    let zone := match offset with
      | none => ""
      | some minutes => ", tzinfo=" ++ offsetText minutes
    "datetime.datetime(" ++ listed (dateNumbers d ++ clockNumbers c) ++ zone ++ ")"

/-- A moment as a value. -/
def value (m : Moment) : Value :=
  .foreign ⟨m.printed, m.kind, "datetime." ++ m.kind, m.printed, false, none⟩

end Moment

/-- A moment that begins here, which must exist. -/
def moment (cs : List Char) : Option (Reading Value) :=
  (moment? cs).map fun (m, rest) => if m.isValid then .ok (m.value, rest) else wrong .date cs

end Tiered.Toml
