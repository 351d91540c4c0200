import Mathlib
import Tiered.Proofs.Json.Refused
import Tiered.Proofs.Template.Containers

/-!
# Fault — rendering values that have no text

Any value can be held under a name, and one that JSON has no form for, or a whole number that is too
long, has no text in a template (`exists_valueText_iff`).  Rendering looks up the names as they
stand in what is rendered and fails at the first one under which such a value is found, before it
comes to report the names that no tier holds (`render_of_fault`).  So it fails by that report alone
exactly when every value that it comes upon has a text (`render_failures`).
-/

open Tiered.Action

namespace Tiered.Template

/-! ### Values without a text -/

section ValueText

variable {v : Value} {failure : Failure}

/-- **Which values have a text in a template.** -/
theorem exists_valueText_iff : (∃ t, valueText v = .ok t) ↔ v.Writable := by
  have hwrite : (∃ cs, Json.write .spaced v = .ok cs) ↔ v.Writable :=
    Json.exists_writeAt_iff_writable rfl rfl
  rw [valueText.eq_def]
  split
  case h_4 n =>
    rw [Value.Writable, ← Json.exists_intText_iff]
    delta Json.intText
    cases Number.Decimal.text? n <;> simp
  case h_6 =>
    rw [← hwrite]
    cases Json.write .spaced v <;> simp
  all_goals exact ⟨fun _ => trivial, fun _ => ⟨_, rfl⟩⟩

/-- Making a text fails on a whole number that is too long, and on values and keys of kinds that
JSON has no form for. -/
theorem valueText_error (h : valueText v = .error failure) :
    failure = .overlong none ∨ ∃ kind, failure = .unserializable kind ∨ failure = .badKey kind := by
  rw [valueText.eq_def] at h
  split at h
  case h_4 n =>
    revert h
    cases Number.Decimal.text? n <;> simp +contextual [eq_comm]
  case h_6 =>
    cases hw : Json.write .spaced v with
    | ok cs => simp [hw] at h
    | error refusal =>
        obtain rfl : Failure.ofRefusal refusal = failure := by simpa [hw] using h
        cases refusal with
        | overlong => exact .inl rfl
        | unserializable kind => exact .inr ⟨kind, .inl rfl⟩
        | badKey kind => exact .inr ⟨kind, .inr rfl⟩
        | nonFinite text =>
            obtain hoverlong | ⟨-, hunnamed⟩ := Json.refusal_of_writeAt hw
            · cases hoverlong
            · cases hunnamed
  all_goals exact absurd h (by simp)

end ValueText

/-! ### The first fault -/

/-- The failure to make a text of the value that is found under a name, if one is found that has
none. -/
def fault? (r : Resolver) (name : Text) : Option Failure :=
  match r.find? (.text name) with
  | none => none
  | some (v, _) => match valueText v with
    | .ok _ => none
    | .error failure => some failure

/-- The fault of the first of the names that has one. -/
def firstFault (r : Resolver) (ns : List Text) : Option Failure := ns.findSome? (fault? r)

section FirstFault

variable {r : Resolver} {name : Text} {ns : List Text} {failure : Failure}

theorem fault?_eq_some_iff : fault? r name = some failure ↔
    ∃ v tier, r.find? (.text name) = some (v, tier) ∧ valueText v = .error failure := by
  rw [fault?]
  cases r.find? (.text name) with
  | none => simp
  | some found =>
      obtain ⟨v, tier⟩ := found
      cases h : valueText v <;> simp [h]

theorem fault?_eq_none_iff : fault? r name = none ↔
    ∀ v tier, r.find? (.text name) = some (v, tier) → ∃ shown, valueText v = .ok shown := by
  rw [fault?]
  cases r.find? (.text name) with
  | none => simp
  | some found =>
      obtain ⟨v, tier⟩ := found
      cases h : valueText v <;> simp [h]

/-- There is no fault exactly if every value that is found has a text. -/
theorem firstFault_eq_none_iff : firstFault r ns = none ↔ Showable r ns := by
  rw [firstFault, List.findSome?_eq_none_iff]
  exact forall₂_congr fun name _ => fault?_eq_none_iff

theorem firstFault_singleton (name : Text) : firstFault r [name] = fault? r name := by
  rw [firstFault, List.findSome?_singleton]

theorem shows_of_no_fault (h : fault? r name = none) : Shows r (shownBy r) name := by
  have hone : Showable r [name] := by
    rw [Showable, List.forall_mem_singleton]
    exact fault?_eq_none_iff.1 h
  exact shows_shownBy hone (List.mem_singleton_self name)

end FirstFault

namespace Renderer

/-- **What a part of rendering comes to**: it fails by the first fault of the names that it looks
up, or fills them in. -/
def Settles (resolver : Resolver) {α : Type} (a : Action Renderer α) (x : α)
    (ns : List Text) : Prop :=
  match firstFault resolver ns with
  | none => Fills resolver a x ns
  | some failure => ∀ r : Renderer, r.resolver = resolver → (a r).result = .error failure

section Settles

variable {resolver : Resolver}

/-- Behind a part that fails nothing is rendered, and of a part that does not, the next one may
fail. -/
theorem Settles.bind {α β : Type} {a : Action Renderer α} {f : α → Action Renderer β} {x : α}
    {y : β} {ns ms : List Text} (ha : Settles resolver a x ns) (hf : Settles resolver (f x) y ms) :
    Settles resolver (a >>= f) y (ns ++ ms) := by
  have happend : firstFault resolver (ns ++ ms) =
      (firstFault resolver ns).or (firstFault resolver ms) := List.findSome?_append
  rw [Settles] at ha hf ⊢
  rw [happend]
  cases hns : firstFault resolver ns with
  | some failure =>
      rw [hns] at ha
      intro r hr
      rw [bind_apply, ha r hr]
  | none =>
      rw [hns] at ha
      rw [Option.none_or]
      cases hms : firstFault resolver ms with
      | some failure =>
          rw [hms] at hf
          intro r hr
          rw [bind_apply_of_ok r (ha r hr)]
          exact hf _ hr
      | none =>
          rw [hms] at hf
          exact composes_fills.bind ha hf

theorem composes_settles : Composes (Settles resolver) where
  pure := composes_fills.pure
  bind := Settles.bind

theorem settles_piece (p : Piece) : Settles resolver (piece p)
    (p.filledBy resolver (shownBy resolver)) (p.name?.map .mk).toList := by
  cases p with
  | single u => exact composes_settles.pure _
  | escaped => exact composes_settles.pure _
  | placeholder before name behind =>
      rw [Settles, Piece.name?, Option.map_some, Option.toList_some, firstFault_singleton]
      cases hfault : fault? resolver ⟨name⟩ with
      | none =>
          refine fills_piece fun n hn => ?_
          obtain rfl : name = n := Option.some.inj hn
          exact shows_of_no_fault hfault
      | some failure =>
          rintro r rfl
          obtain ⟨v, tier, hfound, htext⟩ := fault?_eq_some_iff.1 hfault
          rw [piece, bind_apply_of_ok r (lookup_apply r ⟨name⟩), Resolver.answer, hfound]
          simp only [if_true, bind_apply, lift_apply, htext]

/-- **Rendering a value fails by the first fault of the names in its texts, or fills them in.** -/
theorem settles_value (v : Value) : Settles resolver (value v)
    (v.mapTexts (fillText resolver (shownBy resolver))) (allOccurrences v) :=
  composes_settles.value fun _ _ =>
    composes_settles.map (composes_settles.pieces fun p _ => settles_piece p) Text.mk

end Settles

/-! ### What rendering fails by -/

/-- Rendering a value fails in one way only: without strictness not at all, and with strictness by
the report of names, exactly when one of them is held by no tier. -/
structure FailsOneWay (v : Value) (r : Renderer) : Prop where
  lenient : ∃ x, (render v false r).result = .ok x
  reported : ∀ failure, (render v true r).result = .error failure →
    ∃ names, failure = .undefined names
  undefined : (∃ names, (render v true r).result = .error (.undefined names)) ↔
    ∃ name ∈ placeholders v, r.resolver.holds (.text name) = false

section Failures

variable {v : Value} {r : Renderer}

/-- **With a fault, rendering fails by the first one**, whether it is strict or not, and whatever
names are not held. -/
theorem render_of_fault {failure : Failure}
    (h : firstFault r.resolver (allOccurrences v) = some failure) (strict : Bool) :
    (render v strict r).result = .error failure := by
  have hv := @settles_value r.resolver v
  rw [Settles, h] at hv
  rw [render, bind_apply, modify_apply]
  dsimp only
  rw [bind_apply, hv ⟨r.resolver, []⟩ rfl]

theorem firstFault_placeholders : firstFault r.resolver (allOccurrences v) = none ↔
    Showable r.resolver (placeholders v) := by
  rw [firstFault_eq_none_iff, Showable, Showable]
  simp only [mem_placeholders_iff]

/-- Without a fault rendering fails by the report of names only. -/
theorem failsOneWay_of_showable (h : Showable r.resolver (placeholders v)) : FailsOneWay v r := by
  have hlenient := render_showable h false
  have hstrict := render_showable h true
  have hunheld : unheld r.resolver (allOccurrences v) ≠ [] ↔
      ∃ name ∈ placeholders v, r.resolver.holds (.text name) = false := by
    rw [Ne, List.eq_nil_iff_forall_not_mem]
    simp only [mem_unheld, mem_placeholders_iff, not_forall, not_not]
  refine ⟨⟨v.mapTexts (fillText r.resolver (shownBy r.resolver)), ?_⟩, fun failure hf => ?_, ?_⟩
  · simp only [hlenient, Bool.false_eq_true, false_and, if_false]
  · rw [hstrict] at hf
    dsimp only at hf
    split_ifs at hf
    exact ⟨_, (Except.error.inj hf).symm⟩
  · rw [← hunheld, hstrict]
    by_cases hnone : unheld r.resolver (allOccurrences v) = []
    · simp [hnone]
    · simp [hnone]

/-- **How rendering fails.**  Any value can be held under a name.

* Rendering a value fails in one way only exactly when every value that is found under a name in its
  texts is one that JSON, with names for all numbers, has a form for.
* Otherwise it fails with strictness and without, by the fault of the first name in the texts under
  which another value is found, also where names are not held: a whole number is too long, or there
  is no form for a value or for a key of its kind. -/
theorem render_failures (v : Value) (r : Renderer) :
    (FailsOneWay v r ↔ ∀ name ∈ placeholders v, ∀ w tier,
      r.resolver.find? (.text name) = some (w, tier) → w.Writable) ∧
      (¬ FailsOneWay v r → ∃ failure,
        firstFault r.resolver (allOccurrences v) = some failure ∧
        (∀ strict, (render v strict r).result = .error failure) ∧
        (failure = .overlong none ∨
          ∃ kind, failure = .unserializable kind ∨ failure = .badKey kind)) := by
  have hshowable : FailsOneWay v r ↔ Showable r.resolver (placeholders v) := by
    refine ⟨fun h => ?_, failsOneWay_of_showable⟩
    rw [← firstFault_placeholders, Option.eq_none_iff_forall_ne_some]
    intro failure hfault
    obtain ⟨x, hx⟩ := h.lenient
    exact absurd (hx.symm.trans (render_of_fault hfault false)) (by simp)
  refine ⟨hshowable.trans ?_, fun h => ?_⟩
  · simp only [Showable, exists_valueText_iff]
  · rw [hshowable, ← firstFault_placeholders] at h
    obtain ⟨failure, hfault⟩ := Option.ne_none_iff_exists'.1 h
    obtain ⟨name, -, hname⟩ := List.exists_of_findSome?_eq_some hfault
    obtain ⟨w, tier, -, htext⟩ := fault?_eq_some_iff.1 hname
    exact ⟨failure, hfault, render_of_fault hfault, valueText_error htext⟩

/-- A template of two names. -/
def pair : Text := "\x7b\x7bx\x7d\x7d \x7b\x7by\x7d\x7d"

/-- Behind the writing of a set under the first of two names, rendering fails by the set, though the
second name is not held and is to be reported. -/
theorem render_failures_set :
    (render (.text pair) false ⟨(Resolver.set (.text "x") (.set []) ⟨[], []⟩).state, []⟩).result =
        .error (.unserializable "set") ∧
      (render (.text pair) true ⟨(Resolver.set (.text "x") (.set []) ⟨[], []⟩).state, []⟩).result =
        .error (.unserializable "set") ∧
      Text.ofString "y" ∈ placeholders (.text pair) ∧
      (Resolver.set (.text "x") (.set []) ⟨[], []⟩).state.holds (.text "y") = false := by
  have hset : (Resolver.set (.text "x") (.set []) ⟨[], []⟩).state =
      ⟨[(.text "x", .set [])], []⟩ := rfl
  have hfirst : special? pair.codes = some (.placeholder [] (Text.ofString "x").codes [],
      0x20 :: (opener ++ (Text.ofString "y").codes ++ closer)) := by decide
  have hsecond : special? (opener ++ (Text.ofString "y").codes ++ closer) =
      some (.placeholder [] (Text.ofString "y").codes [], []) := by decide
  have hoccurrences : allOccurrences (.text pair) =
      [Text.ofString "x", Text.ofString "y"] := by
    rw [allOccurrences, Value.texts, List.flatMap_singleton, occurrences, pieces_of_special hfirst,
      pieces_cons_of_none (by decide), pieces_of_special hsecond, pieces_nil]
    rfl
  have hfault : firstFault ⟨[(.text "x", .set [])], []⟩ (allOccurrences (.text pair)) =
      some (.unserializable "set") := by
    rw [hoccurrences, firstFault, List.findSome?_cons, fault?_eq_some_iff.2]
    refine ⟨.set [], .snapshot, ?_, rfl⟩
    simp [Resolver.find?, Entries.get?_cons, Value.equals_text]
  rw [hset]
  refine ⟨render_of_fault hfault false, render_of_fault hfault true, ?_, ?_⟩
  · rw [mem_placeholders_iff, hoccurrences]
    exact List.mem_cons_of_mem _ (List.mem_singleton_self _)
  · simp [Resolver.holds, Entries.contains, Entries.get?_cons, Entries.get?_nil, Value.equals_text]
    decide

end Failures

end Renderer

end Tiered.Template
