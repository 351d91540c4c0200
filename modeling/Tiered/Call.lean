import Tiered.Value.Basic

/-!
# Call — arguments bound to parameters

An operation has parameters, of which the first ones are required, and is done to a subject, which
counts as an argument in front.  Arguments are given by position or by name.  Binding looks at the
named arguments one by one, then at the count of the others, and then at what is missing, and the
first fault decides.
-/

namespace Tiered

/-- What an operation takes. -/
structure Signature where
  /-- The name of the operation. -/
  name : String
  /-- The parameters that need an argument, in order. -/
  required : List String
  /-- The parameters behind them, which need none. -/
  optional : List String
  /-- Arguments under other names are taken too. -/
  isOpen : Bool
  deriving Repr

/-- Why arguments do not fit. -/
inductive CallFault where
  /-- Parameters without an argument. -/
  | missing (names : List String)
  /-- More arguments by position than there are parameters; the subject counts on both sides. -/
  | surplus (least most given : Nat)
  /-- A parameter with two arguments. -/
  | repeated (name : String)
  /-- A name that is no parameter. -/
  | unexpected (name : String)
  deriving DecidableEq, Repr

/-- The arguments of a call: those of parameters, by name, and those under other names. -/
structure Arguments where
  bound : List (String × Value)
  further : List (String × Value)
  deriving Repr

namespace CallFault

/-- Names in quotes, as a list in words. -/
def enumerate (names : List String) : String :=
  let rec go : List String → String
    | [] => ""
    | [a] => a
    | [a, b] => a ++ ", and " ++ b
    | a :: rest => a ++ ", " ++ go rest
  match names.map fun n => "'" ++ n ++ "'" with
  | [a, b] => a ++ " and " ++ b
  | quoted => go quoted

/-- The words for a fault in a call of the operation with a name. -/
def message (operation : String) : CallFault → String
  | missing names =>
    operation ++ "() missing " ++ toString names.length ++ " required positional argument" ++
      (if names.length = 1 then "" else "s") ++ ": " ++ enumerate names
  | surplus least most given =>
    let range := if least = most then toString most
      else "from " ++ toString least ++ " to " ++ toString most
    operation ++ "() takes " ++ range ++ " positional argument" ++ (if most = 1 then "" else "s") ++
      " but " ++ toString given ++ (if given = 1 then " was" else " were") ++ " given"
  | repeated name => operation ++ "() got multiple values for argument '" ++ name ++ "'"
  | unexpected name => operation ++ "() got an unexpected keyword argument '" ++ name ++ "'"

end CallFault

namespace Signature

/-- The name of the subject of every operation. -/
def subject : String := "self"

/-- All parameters, in order. -/
def parameters (s : Signature) : List String := s.required ++ s.optional

/-- The arguments with one more under a name. -/
def bindNamed (s : Signature) (args : Arguments) (arg : String × Value) :
    Except CallFault Arguments :=
  if arg.1 = subject ∨ (args.bound.lookup arg.1).isSome then .error (.repeated arg.1)
  else if s.parameters.contains arg.1 then .ok { args with bound := args.bound ++ [arg] }
  else if s.isOpen then .ok { args with further := args.further ++ [arg] }
  else .error (.unexpected arg.1)

/-- The arguments of a call, if they fit. -/
def bind (s : Signature) (positional : List Value) (named : List (String × Value)) :
    Except CallFault Arguments := do
  let args ← named.foldlM s.bindNamed ⟨s.parameters.zip positional, []⟩
  if s.parameters.length < positional.length then
    throw (.surplus (s.required.length + 1) (s.parameters.length + 1) (positional.length + 1))
  let missing := s.required.filter fun p => (args.bound.lookup p).isNone
  if !missing.isEmpty then throw (.missing missing)
  return args

end Signature

/-- The argument of a parameter; one that has none is nothing. -/
def Arguments.get (args : Arguments) (parameter : String) : Value :=
  (args.bound.lookup parameter).getD .none

example : CallFault.enumerate ["a", "b", "c"] = "'a', 'b', and 'c'" := by decide

end Tiered
