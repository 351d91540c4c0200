import Tiered.Resolver.Basic
import Tiered.Template.Piece

/-!
# Render — templates filled in from a resolver

Rendering a text puts the text of a variable's value in the place of each placeholder; a
placeholder whose name is not defined stays as it is and its name is noted.  Lists and the values
of tables are rendered part by part, and everything else stays as it is.  Strict rendering fails if
a name was noted.
-/

namespace Tiered.Template

/-- The text of a value in the place of a placeholder: a text as it is, other values as JSON. -/
def valueText : Value → Except Failure Text
  | .bool b => .ok (if b then "true" else "false")
  | .none => .ok "null"
  | .text t => .ok t
  | .int n => match Number.Decimal.text? n with
    | some cs => .ok (.ofChars cs)
    | none => .error (.overlong none)
  | .float x => .ok (.ofChars (Number.Layout.plain.text x))
  | v => match Json.write Json.Style.spaced v with
    | .ok cs => .ok (.ofChars cs)
    | .error refusal => .error (.ofRefusal refusal)

/-- The names of the placeholders of a template, which must be a text. -/
def namesOf : Value → Except Failure (List Text)
  | .text t => .ok (names t)
  | v => .error (.noTemplate v.fullKind)

/-- A resolver with the names that were looked up and not found. -/
structure Renderer where
  resolver : Resolver
  undefined : List Text
  deriving Repr

namespace Renderer

/-- Notes a name that is not defined. -/
def note (name : Text) : Action Renderer Unit :=
  Action.modify fun r =>
    if r.undefined.contains name then r else { r with undefined := r.undefined ++ [name] }

/-- An operation on the resolver. -/
def onResolver {α : Type} (a : Action Resolver α) : Action Renderer α :=
  Action.focus Renderer.resolver (fun resolver r => { r with resolver := resolver }) a

/-- The text that a piece of a template becomes. -/
def piece : Piece → Action Renderer (List Code)
  | .single u => return [u]
  | .escaped => return opener
  | .placeholder before name behind => do
    let found ← onResolver (Resolver.lookup (.text ⟨name⟩))
    if found.found then return (← Action.lift (valueText found.value)).codes
    else
      note ⟨name⟩
      return (Piece.placeholder before name behind).source

/-- The text that pieces become, one after the other. -/
def pieces : List Piece → Action Renderer (List Code)
  | [] => return []
  | p :: ps => do
    let front ← piece p
    let rest ← pieces ps
    return front ++ rest

/-- The text that a template becomes. -/
def text (t : Text) : Action Renderer Text := do
  return ⟨← pieces (Template.pieces t.codes)⟩

mutual

/-- What a value becomes. -/
def value : Value → Action Renderer Value
  | .text t => do return .text (← text t)
  | .list items => do return .list (← values items)
  | .table es => do return .table (← entries es)
  | v => return v

/-- What the items of a list become. -/
def values : List Value → Action Renderer (List Value)
  | [] => return []
  | v :: vs => do
    let front ← value v
    let rest ← values vs
    return front :: rest

/-- What the entries of a table become; the keys stay. -/
def entries : List (Value × Value) → Action Renderer (List (Value × Value))
  | [] => return []
  | (k, v) :: es => do
    let front ← value v
    let rest ← entries es
    return (k, front) :: rest

end

/-- The names that are not defined, in order. -/
def missing (r : Renderer) : List Text := r.undefined.mergeSort fun a b => !b.before a

/-- Renders a value, after forgetting the names noted before. -/
def render (v : Value) (strict : Bool) : Action Renderer Value := do
  Action.modify fun r => { r with undefined := [] }
  let rendered ← value v
  let r ← Action.read
  if strict && !r.undefined.isEmpty then
    Action.fail (.undefined (r.missing.map .text))
  return rendered

end Renderer

/-- Renders a value from a resolver. -/
def render (v : Value) (strict : Bool) : Action Resolver Value := fun resolver =>
  let o := Renderer.render v strict ⟨resolver, []⟩
  ⟨o.result, o.state.resolver, o.events⟩

end Tiered.Template
