import Tiered.Number.Shortest
import Tiered.Text.Quoted
import Tiered.Value.Basic

/-!
# Display — values as they are shown in messages

Texts and octets are shown as quoted literals, numbers in decimal, containers in their brackets
with a comma and a space between the items, and a tuple of one item with a comma behind it.  A
value that holds an overlong whole number has no display.
-/

namespace Tiered.Value

/-- The parts with a comma and a space between them. -/
def commaJoin : List (List Char) → List Char
  | [] => []
  | [p] => p
  | p :: ps => p ++ ',' :: ' ' :: commaJoin ps

mutual

/-- The display of a value, or nothing if it holds an overlong number. -/
def display? : Value → Option (List Char)
  | none => some "None".toList
  | bool b => some (if b then "True".toList else "False".toList)
  | int n => Number.Decimal.text? n
  | float x => some (Number.Layout.plain.text x)
  | text t => some (Text.Quoted.literal t)
  | octets bytes => some (Text.Quoted.byteLiteral bytes)
  | list items => (displayItems? items).map fun ps => '[' :: commaJoin ps ++ [']']
  | tuple items => (displayItems? items).map fun ps => match ps with
    | [p] => '(' :: p ++ [',', ')']
    | ps => '(' :: commaJoin ps ++ [')']
  | set members => (displayItems? members).map fun ps => match ps with
    | [] => "set()".toList
    | ps => '\x7b' :: commaJoin ps ++ ['\x7d']
  | table entries => (displayEntries? entries).map fun ps => '\x7b' :: commaJoin ps ++ ['\x7d']
  | foreign thing => some thing.printed.toList
  | notFound => some absenceName.toList

/-- The displays of several values. -/
def displayItems? : List Value → Option (List (List Char))
  | [] => some []
  | v :: vs => (display? v).bind fun p => (displayItems? vs).map (p :: ·)

/-- The displays of several entries, each key before its value. -/
def displayEntries? : List (Value × Value) → Option (List (List Char))
  | [] => some []
  | (k, v) :: es =>
    (display? k).bind fun p => (display? v).bind fun q =>
      (displayEntries? es).map ((p ++ ':' :: ' ' :: q) :: ·)

end

/-- The display of a value as a text; a value without one shows nothing. -/
def shown (v : Value) : String := String.ofList ((display? v).getD [])

example : display? (.tuple [.none]) = some "(None,)".toList := by rfl

end Tiered.Value
