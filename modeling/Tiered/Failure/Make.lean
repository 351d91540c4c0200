import Tiered.Failure

/-!
# Make — failures from arguments

The kinds of failures that users of the library know by name can be made from arguments.  Arguments
that do not fit give another failure, about the arguments.
-/

namespace Tiered.Failure

/-- The kinds of failures with a name. -/
inductive Kind where
  | general
  | config
  | environmentFile
  | snapshotFile
  | undefined
  | notOpen
  | unequal
  deriving DecidableEq, Repr

namespace Kind

/-- All kinds. -/
def all : List Kind :=
  [general, config, environmentFile, snapshotFile, undefined, notOpen, unequal]

/-- The name of a kind. -/
def name : Kind → String
  | general => "ScriptVarsError"
  | config => "ConfigValidationError"
  | environmentFile => "EnvironmentFileError"
  | snapshotFile => "SnapshotFileError"
  | undefined => "UndefinedVariableError"
  | notOpen => "SessionNotOpenError"
  | unequal => "AssertionFailure"

/-- What making a failure of a kind takes, where that is not just any arguments. -/
def signature? (k : Kind) : Option Signature :=
  let takes (required optional : List String) : Option Signature :=
    some ⟨k.name ++ ".__init__", required, optional, false⟩
  match k with
  | environmentFile => takes ["path", "reason"] []
  | snapshotFile => takes ["path", "reason"] []
  | undefined => takes ["names"] []
  | unequal => takes ["expected", "actual"] ["message"]
  | _ => none

theorem mem_all (k : Kind) : k ∈ all := by cases k <;> decide

end Kind

/-- Arguments as the words of a failure: one as it is, several together. -/
def describe : List Value → String
  | [] => ""
  | [v] => plain v
  | vs => Value.shown (.tuple vs)

/-- The path that an argument is; only texts are. -/
def pathOf : Value → Except Failure Files.Path
  | .text t => .ok (.ofText t)
  | .octets _ => .error (.noPath
      "argument should be a str object or an os.PathLike object returning str, not <class 'bytes'>")
  | v => .error (.noPath ("expected str, bytes or os.PathLike object, not " ++ v.kind))

/-- The items of an argument. -/
def itemsOf (v : Value) : Except Failure (List Value) :=
  match v.items? with
  | some items => .ok items
  | none => .error (.noItems v.fullKind)

/-- The failure of a template with undefined names, which are put in order. -/
def ofNames (v : Value) : Except Failure Failure := do
  let names ← itemsOf v
  match Value.sort names with
  | .error values => .error (.unordered values)
  | .ok sorted =>
    if (Value.list sorted).display?.isSome then return undefined sorted
    else .error (overlong none)

/-- The failure to use a file, whose path and reason are arguments. -/
def ofFile (path reason : Value) (use : Files.Path → Value → Failure) : Except Failure Failure := do
  let p ← pathOf path
  if hasWords reason then return use p reason else .error (overlong none)

/-- The failure in the words of arguments. -/
def ofWords (args : List Value) (use : String → Failure) : Except Failure Failure :=
  if args.all hasWords then .ok (use (describe args)) else .error (overlong none)

/-- The failure of a kind that arguments make, if they fit. -/
def make? (kind : Kind) (args : List Value) : Except Failure Failure := do
  if let some signature := kind.signature? then
    if let .error fault := signature.bind args [] then .error (call signature.name fault)
  match kind, args with
  | .environmentFile, [path, reason] => ofFile path reason environmentFile
  | .snapshotFile, [path, reason] => ofFile path reason snapshotFile
  | .undefined, [names] => ofNames names
  | .unequal, [expected, actual] => return ofComparison expected actual .none
  | .unequal, [expected, actual, context] => return ofComparison expected actual context
  | .config, args => ofWords args misconfigured
  | .notOpen, args => ofWords args notOpen
  | _, args => ofWords args general

/-- The failure of a kind that arguments make, or the failure to make one. -/
def make (kind : Kind) (args : List Value) : Failure :=
  match make? kind args with
  | .ok failure => failure
  | .error failure => failure

end Tiered.Failure
