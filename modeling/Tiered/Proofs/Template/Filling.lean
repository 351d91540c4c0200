import Mathlib
import Tiered.Proofs.Template.Outcome
import Tiered.Proofs.Template.Spans

/-!
# Filling — a template with its spans filled in

Rendering a text without strictness replaces the spans that tokenise it and copies what is between
them; what was put in is not looked at again.  The names of a template are those of its spans, and
rendering looks each of them up where it stands (`Fills`).

* `filled_located`: filling in the spans of the special pieces fills in piece by piece.
* `render_spans`: exactly one row of spans tokenises a text, and from it come the names and what
  the text is rendered to.
-/

open Tiered.Action

namespace Tiered

namespace Template

/-! ### Filling in -/

/-- A text from a place on, with what its spans become put in their places. -/
def filled (us : List Code) (become : Piece → List Code) (place : Nat) :
    List Span → List Code
  | [] => us.drop place
  | s :: later => us.extract place s.start ++ become s.piece ++ filled us become s.stop later

section Filled

variable {us rest : List Code} {become : Piece → List Code} {place : Nat}

/-- A code point in front of all spans is copied. -/
theorem filled_of_single {u : Code} (h : us.drop place = u :: rest) {spans : List Span}
    (hs : ∀ s ∈ spans, place + 1 ≤ s.start) :
    filled us become place spans = u :: filled us become (place + 1) spans := by
  have hrest := drop_single h
  cases spans with
  | nil => rw [filled, filled, h, hrest]
  | cons s later =>
      have hstart : s.start - place = s.start - (place + 1) + 1 := by
        have := hs s List.mem_cons_self
        omega
      rw [filled, filled, List.extract_eq_take_drop, List.extract_eq_take_drop, h, hrest, hstart,
        List.take_succ_cons, List.cons_append, List.cons_append]

/-- **Filling in the spans of the special pieces is filling in piece by piece**, where single code
points become themselves. -/
theorem filled_located (hu : ∀ u, become (.single u) = [u]) (h : us.drop place = rest) :
    filled us become place (located place (pieces rest)) = (pieces rest).flatMap become := by
  fun_induction pieces rest generalizing place with
  | case1 rest p later hs ih =>
      have hspecial : p.Special := (special?_eq_some_iff.1 hs).1
      rw [located_of_special hspecial, filled, List.flatMap_cons, List.extract_eq_take_drop,
        Nat.sub_self, List.take_zero, List.nil_append]
      exact congrArg (become p ++ ·) (ih (drop_special h hs))
  | case2 hs => rw [located, filled, h, List.flatMap_nil]
  | case3 u later hs ih =>
      have hdrop := drop_single h
      have htokens := (tokenises_iff_located hdrop).2 rfl
      rw [located, filled_of_single h fun s hs => (htokens.stands s hs).1, ih hdrop,
        List.flatMap_cons, hu, List.singleton_append]

end Filled

/-! ### Names -/

/-- The names of the placeholders of a template in order, each one as often as it stands there. -/
def occurrences (t : Text) : List Text := (pieces t.codes).filterMap fun p => p.name?.map .mk

/-- The name in a span, if a placeholder stands there. -/
def Span.name? (s : Span) : Option Text := s.piece.name?.map .mk

theorem filterMap_name?_located (place : Nat) (ps : List Piece) :
    (located place ps).filterMap Span.name? = ps.filterMap fun p => p.name?.map .mk := by
  induction ps generalizing place with
  | nil => rfl
  | cons p ps ih =>
      cases p with
      | single u => exact ih (place + 1)
      | escaped => exact ih _
      | placeholder before name behind => exact congrArg (⟨name⟩ :: ·) (ih _)

theorem firsts_eq {α : Type} [BEq α] [LawfulBEq α] (xs : List α) : firsts xs = xs.eraseDups := by
  induction xs using List.reverseRecOn with
  | nil => rfl
  | append_singleton xs x ih =>
      rw [firsts, List.foldl_append, ← firsts, ih, List.eraseDups_append]
      by_cases h : x ∈ xs <;> simp [h, List.removeAll, List.eraseDups_cons]

theorem names_eq_eraseDups (t : Text) : names t = (occurrences t).eraseDups := firsts_eq _

theorem mem_names_iff {t name : Text} : name ∈ names t ↔ name ∈ occurrences t := by
  rw [names_eq_eraseDups, List.mem_eraseDups]

theorem names_eq (t : Text) :
    names t = ((located 0 (pieces t.codes)).filterMap Span.name?).eraseDups := by
  rw [names, firsts_eq, filterMap_name?_located]

/-! ### Rendering -/

/-- The text that each name has is that of the value that is found under it, if one is found. -/
def Shows (r : Resolver) (shown : Text → Text) (name : Text) : Prop :=
  ∀ v tier, r.find? (.text name) = some (v, tier) → valueText v = .ok (shown name)

/-- What a piece becomes: an opener if it is an escaped one, the text of its name if it is a
placeholder whose name the resolver holds, and else itself. -/
def Piece.filledBy (r : Resolver) (shown : Text → Text) : Piece → List Code
  | single u => [u]
  | escaped => opener
  | placeholder before name behind =>
    if r.holds (.text ⟨name⟩) then (shown ⟨name⟩).codes
    else (placeholder before name behind).source

/-- The names that no tier of a resolver holds. -/
def lacking (r : Resolver) (ns : List Text) : List Text := ns.filter fun n => !r.holds (.text n)

/-- What is told of looking names up, one after the other. -/
def lookups (r : Resolver) (ns : List Text) : List Log.Event :=
  ns.map fun n => .variableResolved (.text n) (r.answer (.text n) n).tier.name

namespace Renderer

/-- The renderer with names noted, each one if it is not there. -/
def noted (r : Renderer) (ns : List Text) : Renderer :=
  ⟨r.resolver, ns.foldl (fun acc n => if acc.contains n then acc else acc ++ [n]) r.undefined⟩

theorem noted_append (r : Renderer) (ns ms : List Text) :
    r.noted (ns ++ ms) = (r.noted ns).noted ms := by
  rw [noted, noted, noted, List.foldl_append]

theorem note_apply (r : Renderer) (name : Text) : note name r = ⟨.ok (), r.noted [name], []⟩ := by
  rw [note, modify_apply, noted, List.foldl_cons, List.foldl_nil]
  split_ifs <;> rfl

/-- What can be said of a part of rendering with what it gives and the names that it looks up, if it
holds where nothing is looked up, and of parts behind one another. -/
structure Composes (P : ∀ {α : Type}, Action Renderer α → α → List Text → Prop) : Prop where
  pure : ∀ {α : Type} (x : α), P (pure x) x []
  bind : ∀ {α β : Type} {a : Action Renderer α} {f : α → Action Renderer β} {x : α} {y : β}
    {ns ms : List Text}, P a x ns → P (f x) y ms → P (a >>= f) y (ns ++ ms)

section Composes

variable {P : ∀ {α : Type}, Action Renderer α → α → List Text → Prop} {α β γ : Type}

/-- What is made of what a part of rendering gives. -/
theorem Composes.map (h : Composes P) {a : Action Renderer α} {x : α} {ns : List Text}
    (ha : P a x ns) (f : α → β) : P (a >>= fun x => Pure.pure (f x)) (f x) ns := by
  have hmap := h.bind (f := fun x => Pure.pure (f x)) ha (h.pure (f x))
  rwa [List.append_nil] at hmap

/-- What two parts of rendering, one behind the other, give together. -/
theorem Composes.both (h : Composes P) {a : Action Renderer α} {b : Action Renderer β} {x : α}
    {y : β} {ns ms : List Text} (ha : P a x ns) (hb : P b y ms) (f : α → β → γ) :
    P (a >>= fun x => b >>= fun y => Pure.pure (f x y)) (f x y) (ns ++ ms) :=
  h.bind (f := fun x => b >>= fun y => Pure.pure (f x y)) ha (h.map hb (f x))

/-- Pieces become what they become one after the other. -/
theorem Composes.pieces (h : Composes P) {become : Piece → List Code} {ps : List Piece}
    (hps : ∀ p ∈ ps, P (piece p) (become p) (p.name?.map .mk).toList) :
    P (pieces ps) (ps.flatMap become) (ps.filterMap fun p => p.name?.map .mk) := by
  rw [List.filterMap_eq_flatMap_toList]
  induction ps with
  | nil => exact h.pure _
  | cons p ps ih =>
      obtain ⟨hp, hps⟩ := List.forall_mem_cons.1 hps
      rw [List.flatMap_cons, List.flatMap_cons]
      exact h.both hp (ih hps) (· ++ ·)

end Composes

/-- Looking a name up says what the resolver answers. -/
theorem lookup_apply (r : Renderer) (name : Text) : onResolver (Resolver.lookup (.text name)) r =
    ⟨.ok (r.resolver.answer (.text name) name), r, lookups r.resolver [name]⟩ := by
  rw [onResolver, focus, Resolver.lookup_text]
  rfl

/-- **What a part of rendering does with a resolver**: it gives a result, looks names up in order,
and notes those that the resolver does not hold. -/
def Fills {α : Type} (resolver : Resolver) (a : Action Renderer α) (x : α)
    (ns : List Text) : Prop :=
  ∀ r : Renderer, r.resolver = resolver →
    a r = ⟨.ok x, r.noted (lacking resolver ns), lookups resolver ns⟩

section Fills

variable {resolver : Resolver} {shown : Text → Text}

theorem composes_fills : Composes (Fills resolver) where
  pure _ _ _ := rfl
  bind {α β a f x y ns ms} ha hf := by
    intro r hr
    have hnext := hf (r.noted (lacking resolver ns)) hr
    rw [bind_apply_of_ok r (ha r hr), hnext, ← noted_append, lacking, lacking, lacking,
      List.filter_append, lookups, lookups, lookups, List.map_append]

theorem fills_piece {p : Piece} (h : ∀ name, p.name? = some name → Shows resolver shown ⟨name⟩) :
    Fills resolver (piece p) (p.filledBy resolver shown) (p.name?.map .mk).toList := by
  cases p with
  | single u => exact composes_fills.pure _
  | escaped => exact composes_fills.pure _
  | placeholder before name behind =>
      rintro r rfl
      have hshows : Shows r.resolver shown ⟨name⟩ := h name rfl
      rw [piece, bind_apply_of_ok r (lookup_apply r ⟨name⟩), Piece.filledBy, Piece.name?,
        Option.map_some, Option.toList_some, lacking, List.filter_cons, List.filter_nil,
        Resolver.holds_eq, Resolver.answer]
      cases hf : r.resolver.find? (.text ⟨name⟩) with
      | none =>
          -- the name is noted, and the placeholder stays
          have hnote := note_apply r ⟨name⟩
          simp only [Bool.false_eq_true, if_false, Option.isSome_none, Bool.not_false, if_true,
            bind_apply_of_ok r hnote, pure_apply, List.append_nil]
      | some found =>
          obtain ⟨v, tier⟩ := found
          have hlift : lift (valueText v) r = ⟨.ok (shown ⟨name⟩), r, []⟩ := by
            rw [lift_apply, hshows v tier hf]
          simp only [if_true, Option.isSome_some, Bool.not_true, Bool.false_eq_true, if_false,
            bind_apply_of_ok r hlift, pure_apply, List.append_nil]
          rfl

/-- **Pieces are filled in one after the other.** -/
theorem fills_pieces {ps : List Piece}
    (h : ∀ p ∈ ps, ∀ name, p.name? = some name → Shows resolver shown ⟨name⟩) :
    Fills resolver (pieces ps) (ps.flatMap (Piece.filledBy resolver shown))
      (ps.filterMap fun p => p.name?.map .mk) :=
  composes_fills.pieces fun p hp => fills_piece (h p hp)

end Fills

variable {r : Renderer} {shown : Text → Text}

theorem pieces_result {ps : List Piece}
    (h : ∀ p ∈ ps, ∀ name, p.name? = some name → Shows r.resolver shown ⟨name⟩) :
    (pieces ps r).result = .ok (ps.flatMap (Piece.filledBy r.resolver shown)) := by
  rw [fills_pieces h r rfl]

/-- What is rendered without strictness is what the value becomes. -/
theorem render_result (v : Value) : (render v false r).result =
    (value v { r with undefined := [] }).result := by
  simp only [render, Action.bind_apply, Action.modify_apply, Action.read_apply, Bool.false_and,
    Bool.false_eq_true, if_false, Action.pure_apply]
  cases (value v { r with undefined := [] }).result <;> rfl

end Renderer

/-- **What a text is rendered to.**  Exactly one row of spans tokenises a text.  Its names are the
names of the template, each one once, where it comes first.  Where every value that is found under
one of them has a text, rendering gives the text with the spans filled in. -/
theorem render_spans (t : Text) :
    (∃! spans, Tokenises t.codes 0 spans) ∧
    ∀ spans, Tokenises t.codes 0 spans →
      names t = (spans.filterMap Span.name?).eraseDups ∧
      ∀ (r : Renderer) (shown : Text → Text), (∀ name ∈ names t, Shows r.resolver shown name) →
        (Renderer.render (.text t) false r).result =
          .ok (.text ⟨filled t.codes (Piece.filledBy r.resolver shown) 0 spans⟩) := by
  refine ⟨⟨_, tokenises_iff.2 rfl, fun _ h => tokenises_iff.1 h⟩, fun spans h => ?_⟩
  obtain rfl := tokenises_iff.1 h
  refine ⟨names_eq t, fun r shown hshows => ?_⟩
  have hpieces : ∀ p ∈ pieces t.codes, ∀ name, p.name? = some name →
      Shows r.resolver shown ⟨name⟩ := by
    intro p hp name hname
    refine hshows ⟨name⟩ ?_
    rw [names, firsts_eq, List.mem_eraseDups, List.mem_filterMap]
    exact ⟨p, hp, by rw [hname]; rfl⟩
  rw [Renderer.render_result, Renderer.value, Action.bind_pure_apply, Renderer.text,
    Action.bind_pure_apply, Renderer.pieces_result (by exact hpieces),
    filled_located (fun _ => rfl) List.drop_zero]
  rfl

/-- A template with a brace in front of a placeholder, and an escaped opener in front of what would
be another one. -/
def tricky : Text :=
  ⟨brace :: (opener ++ 0x20 :: 0x61 :: 0x20 :: (closer ++ (escapedOpener ++ 0x62 :: closer)))⟩

/-- A renderer whose only variable holds a placeholder of its own name. -/
def trickyRenderer : Renderer :=
  ⟨⟨[(.text ⟨[0x61]⟩, .text ⟨opener ++ 0x61 :: closer⟩)], []⟩, []⟩

theorem find?_trickyRenderer : trickyRenderer.resolver.find? (.text ⟨[0x61]⟩) =
    some (.text ⟨opener ++ 0x61 :: closer⟩, .snapshot) := by
  simp [trickyRenderer, Resolver.find?, Entries.get?_cons, Value.equals_text]

theorem pieces_tricky : pieces tricky.codes = [.single brace, .placeholder [0x20] [0x61] [0x20],
    .escaped, .single 0x62, .single endBrace, .single endBrace] := by
  have hplaceholder :
      special? (opener ++ 0x20 :: 0x61 :: 0x20 :: (closer ++ (escapedOpener ++ 0x62 :: closer))) =
        some (.placeholder [0x20] [0x61] [0x20], escapedOpener ++ 0x62 :: closer) := rfl
  have hescaped :
      special? (escapedOpener ++ 0x62 :: closer) = some (.escaped, 0x62 :: closer) := rfl
  rw [tricky, pieces_cons_of_none (by decide), pieces_of_special hplaceholder,
    pieces_of_special hescaped, closer, pieces_cons_of_none (by decide),
    pieces_cons_of_none (by decide), pieces_cons_of_none (by decide), pieces_nil]

/-- The second brace begins the placeholder, the escaped opener loses its backslash, and the text
that is put in is not looked at again, though it is a placeholder. -/
theorem render_spans_tricky :
    Tokenises tricky.codes 0 [⟨1, .placeholder [0x20] [0x61] [0x20]⟩, ⟨8, .escaped⟩] ∧
      names tricky = [⟨[0x61]⟩] ∧
      (Renderer.render (.text tricky) false trickyRenderer).result = .ok (.text
        ⟨brace :: (opener ++ 0x61 :: (closer ++ (opener ++ 0x62 :: closer)))⟩) := by
  have htokens : Tokenises tricky.codes 0
      [⟨1, .placeholder [0x20] [0x61] [0x20]⟩, ⟨8, .escaped⟩] :=
    tokenises_iff.2 (by rw [pieces_tricky]; rfl)
  obtain ⟨hnames, hrender⟩ := (render_spans tricky).2 _ htokens
  have hname : names tricky = [⟨[0x61]⟩] := hnames.trans (by decide)
  have hshows : ∀ name ∈ names tricky,
      Shows trickyRenderer.resolver (fun _ => ⟨opener ++ 0x61 :: closer⟩) name := by
    rw [hname, List.forall_mem_singleton]
    intro v tier hfound
    rw [find?_trickyRenderer] at hfound
    obtain ⟨rfl, -⟩ := Prod.mk.inj (Option.some.inj hfound)
    rfl
  refine ⟨htokens, hname, (hrender _ _ hshows).trans ?_⟩
  simp only [filled, Piece.filledBy, Resolver.holds_eq, find?_trickyRenderer]
  rfl

end Template

end Tiered
