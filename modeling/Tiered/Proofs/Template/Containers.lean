import Mathlib
import Tiered.Proofs.Resolver.Tiers
import Tiered.Proofs.Template.Filling

/-!
# Containers — rendering a value with the texts in it

Rendering goes through lists and the values of tables, and renders the texts that it meets; keys,
tuples, sets and everything else stay (`Value.texts`, `Value.mapTexts`).  It looks up the names of
those texts in order, once for each placeholder, and what it comes to is that of the texts and of
the names that no tier holds (`fills_value`).  So it can be said of a whole value what it becomes,
which names are reported, and on what of the resolver it depends (`render_containers`).
-/

open Tiered.Action

namespace Tiered

namespace Value

mutual

/-- The texts that lists and the values of tables lead to, in order. -/
def texts : Value → List Text
  | text t => [t]
  | list items => itemTexts items
  | table entries => entryTexts entries
  | _ => []

/-- The texts of the items. -/
def itemTexts : List Value → List Text
  | [] => []
  | v :: vs => texts v ++ itemTexts vs

/-- The texts of the values of the entries. -/
def entryTexts : List (Value × Value) → List Text
  | [] => []
  | (_, v) :: es => texts v ++ entryTexts es

end

mutual

/-- The value with each of its texts replaced. -/
def mapTexts (f : Text → Text) : Value → Value
  | text t => text (f t)
  | list items => list (mapItems f items)
  | table entries => table (mapEntries f entries)
  | v => v

/-- The items with each of their texts replaced. -/
def mapItems (f : Text → Text) : List Value → List Value
  | [] => []
  | v :: vs => mapTexts f v :: mapItems f vs

/-- The entries with each text of their values replaced. -/
def mapEntries (f : Text → Text) : List (Value × Value) → List (Value × Value)
  | [] => []
  | (k, v) :: es => (k, mapTexts f v) :: mapEntries f es

end

theorem itemTexts_eq (vs : List Value) : itemTexts vs = vs.flatMap texts := by
  induction vs with
  | nil => rfl
  | cons v vs ih => rw [itemTexts, ih, List.flatMap_cons]

theorem entryTexts_eq (es : Entries) : entryTexts es = es.flatMap fun e => e.2.texts := by
  induction es with
  | nil => rfl
  | cons e es ih => rw [entryTexts, ih, List.flatMap_cons]

theorem mapItems_eq (f : Text → Text) (vs : List Value) : mapItems f vs = vs.map (mapTexts f) := by
  induction vs with
  | nil => rfl
  | cons v vs ih => rw [mapItems, ih, List.map_cons]

theorem mapEntries_eq (f : Text → Text) (es : Entries) :
    mapEntries f es = es.map fun e => (e.1, e.2.mapTexts f) := by
  induction es with
  | nil => rfl
  | cons e es ih => rw [mapEntries, ih, List.map_cons]

/-- Only what becomes of the texts of a value matters. -/
theorem mapTexts_congr {f g : Text → Text} {v : Value} (h : ∀ t ∈ v.texts, f t = g t) :
    v.mapTexts f = v.mapTexts g := by
  induction v using Value.nested with
  | text t => rw [mapTexts, mapTexts, h t (List.mem_singleton_self t)]
  | list items ih =>
      rw [texts, itemTexts_eq] at h
      rw [mapTexts, mapTexts, mapItems_eq, mapItems_eq]
      refine congrArg list (List.map_congr_left fun v hv => ih v hv fun t ht => ?_)
      exact h t (List.mem_flatMap.2 ⟨v, hv, ht⟩)
  | table es ih =>
      rw [texts, entryTexts_eq] at h
      rw [mapTexts, mapTexts, mapEntries_eq, mapEntries_eq]
      refine congrArg table (List.map_congr_left fun e he => ?_)
      refine congrArg (e.1, ·) ((ih e he).2 fun t ht => ?_)
      exact h t (List.mem_flatMap.2 ⟨e, he, ht⟩)
  | _ => rfl

end Value

namespace Template

/-- The names of the placeholders in the texts of a value. -/
def placeholders (v : Value) : List Text := v.texts.flatMap names

/-- The same names in order, each one as often as it stands there. -/
def allOccurrences (v : Value) : List Text := v.texts.flatMap occurrences

theorem mem_placeholders_iff {v : Value} {name : Text} :
    name ∈ placeholders v ↔ name ∈ allOccurrences v := by
  simp only [placeholders, allOccurrences, List.mem_flatMap, mem_names_iff]

theorem mem_placeholders {v : Value} {t name : Text} (ht : t ∈ v.texts)
    (hname : name ∈ occurrences t) : name ∈ placeholders v :=
  mem_placeholders_iff.2 (List.mem_flatMap.2 ⟨t, ht, hname⟩)

/-- A text with its placeholders filled in. -/
def fillText (r : Resolver) (shown : Text → Text) (t : Text) : Text :=
  ⟨(pieces t.codes).flatMap (Piece.filledBy r shown)⟩

namespace Renderer

section Composes

variable {P : ∀ {α : Type}, Action Renderer α → α → List Text → Prop} (h : Composes P)
include h

theorem Composes.values {become : Value → Value} {found : Value → List Text} {vs : List Value}
    (hvs : ∀ v ∈ vs, P (value v) (become v) (found v)) :
    P (values vs) (vs.map become) (vs.flatMap found) := by
  induction vs with
  | nil => exact h.pure _
  | cons v vs ih =>
      obtain ⟨hv, hvs⟩ := List.forall_mem_cons.1 hvs
      rw [List.map_cons, List.flatMap_cons]
      exact h.both hv (ih hvs) List.cons

theorem Composes.entries {become : Value × Value → Value} {found : Value × Value → List Text}
    {es : Entries} (hes : ∀ e ∈ es, P (value e.2) (become e) (found e)) :
    P (entries es) (es.map fun e => (e.1, become e)) (es.flatMap found) := by
  induction es with
  | nil => exact h.pure _
  | cons e es ih =>
      obtain ⟨he, hes⟩ := List.forall_mem_cons.1 hes
      rw [List.map_cons, List.flatMap_cons]
      exact h.both he (ih hes) fun v es => (e.1, v) :: es

/-- **A value becomes what its texts become**, and their names are looked up in order. -/
theorem Composes.value {become : Text → Text} {v : Value}
    (hv : ∀ t ∈ v.texts, P (text t) (become t) (occurrences t)) :
    P (value v) (v.mapTexts become) (allOccurrences v) := by
  rw [allOccurrences]
  induction v using Value.nested with
  | text t =>
      rw [Value.texts, List.flatMap_singleton]
      exact h.map (hv t (List.mem_singleton_self t)) Value.text
  | list items ih =>
      rw [Value.texts, Value.itemTexts_eq] at hv ⊢
      rw [Value.mapTexts, Value.mapItems_eq, List.flatMap_assoc]
      refine h.map (h.values fun v hmem => ih v hmem fun t ht => ?_) Value.list
      exact hv t (List.mem_flatMap.2 ⟨v, hmem, ht⟩)
  | table es ih =>
      rw [Value.texts, Value.entryTexts_eq] at hv ⊢
      rw [Value.mapTexts, Value.mapEntries_eq, List.flatMap_assoc]
      refine h.map (h.entries fun e he => (ih e he).2 fun t ht => ?_) Value.table
      exact hv t (List.mem_flatMap.2 ⟨e, he, ht⟩)
  | _ => exact h.pure _

end Composes

section Fills

variable {resolver : Resolver} {shown : Text → Text}

theorem fills_text {t : Text} (h : ∀ name ∈ occurrences t, Shows resolver shown name) :
    Fills resolver (text t) (fillText resolver shown t) (occurrences t) := by
  refine composes_fills.map (fills_pieces fun p hp name hname => h ⟨name⟩ ?_) Text.mk
  exact List.mem_filterMap.2 ⟨p, hp, by rw [hname]; rfl⟩

/-- The texts of a value are filled in one after the other. -/
theorem fills_value {v : Value}
    (h : ∀ t ∈ v.texts, ∀ name ∈ occurrences t, Shows resolver shown name) :
    Fills resolver (value v) (v.mapTexts (fillText resolver shown)) (allOccurrences v) :=
  composes_fills.value fun t ht => fills_text (h t ht)

end Fills

/-! ### What rendering comes to -/

/-- The names that no tier of a resolver holds, each one once. -/
def unheld (r : Resolver) (ns : List Text) : List Text := (lacking r ns).eraseDups

theorem mem_unheld {r : Resolver} {ns : List Text} {name : Text} :
    name ∈ unheld r ns ↔ name ∈ ns ∧ r.holds (.text name) = false := by
  rw [unheld, List.mem_eraseDups, lacking, List.mem_filter, Bool.not_eq_true']

section Render

variable {r : Renderer} {v x : Value} {ns : List Text}

/-- **What rendering a value comes to**: earlier names are forgotten, and where it is strict, names
that no tier holds are an error. -/
theorem render_of_fills (h : Fills r.resolver (value v) x ns) (strict : Bool) :
    render v strict r =
      ⟨if strict = true ∧ unheld r.resolver ns ≠ [] then
          .error (.undefined ((missing ⟨r.resolver, unheld r.resolver ns⟩).map .text))
        else .ok x,
        ⟨r.resolver, unheld r.resolver ns⟩, lookups r.resolver ns⟩ := by
  have hnoted : noted ⟨r.resolver, []⟩ (lacking r.resolver ns) =
      ⟨r.resolver, unheld r.resolver ns⟩ := by
    rw [unheld, ← firsts_eq]
    rfl
  have hvalue := h ⟨r.resolver, []⟩ rfl
  have hstrict : (strict && !(unheld r.resolver ns).isEmpty) = true ↔
      strict = true ∧ unheld r.resolver ns ≠ [] := by simp
  rw [render, bind_apply, modify_apply]
  dsimp only
  rw [bind_apply_of_ok _ (hvalue.trans (by rw [hnoted])), bind_apply, read_apply]
  simp only [hstrict, List.nil_append]
  split_ifs
  · simp only [bind_apply, fail_apply, List.append_nil]
  · simp only [pure_apply, List.append_nil]

theorem mem_missing {name : Text} : name ∈ r.missing ↔ name ∈ r.undefined := List.mem_mergeSort

theorem missing_eq_nil_iff : r.missing = [] ↔ r.undefined = [] := by
  rw [← List.length_eq_zero_iff, missing, List.length_mergeSort, List.length_eq_zero_iff]

/-- Names that are reported stand in order. -/
theorem missing_ordered (h : r.undefined.Nodup) :
    r.missing.Pairwise fun a b => a.before b = true := by
  have hle : ∀ a b : Text, (!b.before a) = true ↔ a.numbers ≤ b.numbers := by
    intro a b
    rw [Text.before, Bool.not_eq_true', decide_eq_false_iff_not, not_lt]
  have hsorted : r.missing.Pairwise fun a b => (!b.before a) = true := by
    refine List.pairwise_mergeSort (fun a b c hab hbc => ?_) (fun a b => ?_) _
    · rw [hle] at hab hbc ⊢
      exact hab.trans hbc
    · rw [Bool.or_eq_true, hle, hle]
      exact le_total _ _
  have hnodup : r.missing.Nodup := (List.mergeSort_perm _ _).nodup_iff.2 h
  refine (hsorted.and hnodup).imp fun {a b} ⟨hab, hne⟩ => ?_
  rw [Text.before, decide_eq_true_iff]
  refine ((hle a b).1 hab).lt_of_ne fun hcodes => hne ?_
  rw [← Text.ofNumbers_numbers a, hcodes, Text.ofNumbers_numbers]

end Render

end Renderer

/-! ### What a resolver shows -/

/-- The text of the value that is found under a name, if one is found and has a text. -/
def shownBy (r : Resolver) (name : Text) : Text :=
  (((r.find? (.text name)).map Prod.fst).bind fun v => (valueText v).toOption).getD name

/-- Every value that is found under one of the names has a text. -/
def Showable (r : Resolver) (ns : List Text) : Prop :=
  ∀ name ∈ ns, ∀ v tier, r.find? (.text name) = some (v, tier) → ∃ shown, valueText v = .ok shown

/-- Two resolvers find the same values under the names, in whatever tier. -/
def AgreeOn (r r' : Resolver) (ns : List Text) : Prop :=
  ∀ name ∈ ns, (r'.find? (.text name)).map Prod.fst = (r.find? (.text name)).map Prod.fst

section Shown

variable {r r' : Resolver} {ns : List Text} {name : Text}

theorem shows_shownBy (h : Showable r ns) (hname : name ∈ ns) : Shows r (shownBy r) name := by
  intro v tier hfound
  obtain ⟨shown, hshown⟩ := h name hname v tier hfound
  rw [shownBy, hfound, Option.map_some, Option.bind_some, hshown]
  rfl

theorem AgreeOn.holds (h : AgreeOn r r' ns) (hname : name ∈ ns) :
    r'.holds (.text name) = r.holds (.text name) := by
  rw [Resolver.holds_eq, Resolver.holds_eq, ← Option.isSome_map (f := Prod.fst), h name hname,
    Option.isSome_map]

theorem AgreeOn.unheld {ms : List Text} (h : AgreeOn r r' ns) (hms : ∀ name ∈ ms, name ∈ ns) :
    Renderer.unheld r' ms = Renderer.unheld r ms := by
  refine congrArg List.eraseDups (List.filter_congr fun name hname => ?_)
  rw [h.holds (hms name hname)]

theorem AgreeOn.showable (h : AgreeOn r r' ns) (hr : Showable r ns) : Showable r' ns := by
  intro name hname v tier hfound
  have hagree := h name hname
  rw [hfound, Option.map_some] at hagree
  obtain ⟨⟨w, tier'⟩, hfound', rfl⟩ := Option.map_eq_some_iff.1 hagree.symm
  exact hr name hname _ tier' hfound'

theorem AgreeOn.fillText (h : AgreeOn r r' ns) {t : Text} (ht : ∀ name ∈ occurrences t, name ∈ ns) :
    fillText r' (shownBy r') t = fillText r (shownBy r) t := by
  refine congrArg Text.mk (List.flatMap_congr fun p hp => ?_)
  cases p with
  | single u => rfl
  | escaped => rfl
  | placeholder before name behind =>
      have hname : ⟨name⟩ ∈ ns := ht ⟨name⟩ (List.mem_filterMap.2 ⟨_, hp, rfl⟩)
      rw [Piece.filledBy, Piece.filledBy, h.holds hname, shownBy, shownBy, h ⟨name⟩ hname]

end Shown

namespace Renderer

/-- Rendering fills in what the resolver shows. -/
theorem render_showable {v : Value} {r : Renderer} (h : Showable r.resolver (placeholders v))
    (strict : Bool) : render v strict r =
      ⟨if strict = true ∧ unheld r.resolver (allOccurrences v) ≠ [] then .error (.undefined
          ((missing ⟨r.resolver, unheld r.resolver (allOccurrences v)⟩).map .text))
        else .ok (v.mapTexts (fillText r.resolver (shownBy r.resolver))),
        ⟨r.resolver, unheld r.resolver (allOccurrences v)⟩,
        lookups r.resolver (allOccurrences v)⟩ := by
  have hshows : ∀ t ∈ v.texts, ∀ name ∈ occurrences t,
      Shows r.resolver (shownBy r.resolver) name :=
    fun t ht name hname => shows_shownBy h (mem_placeholders ht hname)
  exact render_of_fills (fills_value hshows) strict

/-- **Rendering a value and the names in it.**  Let every value that is found under a name in the
texts of a value have a text.  Then, whatever was rendered before:

* Without strictness the value becomes the same value with each of its texts as it is rendered by
  itself.
* The resolver stays, the names that are noted are those in the texts that no tier holds, and each
  placeholder is looked up once, in order.
* With strictness the result is the same if there is no such name, and else the report of all of
  them, in order and each one once.
* A resolver that finds the same values under the names in the texts makes no difference. -/
theorem render_containers (v : Value) (r : Renderer) (h : Showable r.resolver (placeholders v)) :
    (∃ become : Text → Text,
      (∀ t ∈ v.texts, (render (.text t) false r).result = .ok (.text (become t))) ∧
        (render v false r).result = .ok (v.mapTexts become)) ∧
      (∀ strict, (render v strict r).state.resolver = r.resolver ∧
        (render v strict r).state.undefined.Nodup ∧
        (∀ name, name ∈ (render v strict r).state.undefined ↔
          name ∈ placeholders v ∧ r.resolver.holds (.text name) = false) ∧
        (render v strict r).events = lookups r.resolver (allOccurrences v)) ∧
      (∃ reported : List Text, reported.Pairwise (fun a b => a.before b = true) ∧
        (∀ name, name ∈ reported ↔
          name ∈ placeholders v ∧ r.resolver.holds (.text name) = false) ∧
        (render v true r).result = if reported = [] then (render v false r).result
          else .error (.undefined (reported.map .text))) ∧
      ∀ r' : Renderer, AgreeOn r.resolver r'.resolver (placeholders v) → ∀ strict,
        (render v strict r').result = (render v strict r).result ∧
          (render v strict r').state.undefined = (render v strict r).state.undefined := by
  have hnodup : (unheld r.resolver (allOccurrences v)).Nodup := nodup_eraseDups _
  have hunheld : ∀ name, name ∈ unheld r.resolver (allOccurrences v) ↔
      name ∈ placeholders v ∧ r.resolver.holds (.text name) = false := by
    intro name
    rw [mem_unheld, mem_placeholders_iff]
  refine ⟨⟨fillText r.resolver (shownBy r.resolver), fun t ht => ?_, ?_⟩, fun strict => ?_,
    ⟨missing ⟨r.resolver, unheld r.resolver (allOccurrences v)⟩, missing_ordered hnodup,
      fun name => mem_missing.trans (hunheld name), ?_⟩, fun r' hagree strict => ?_⟩
  · have htext : Showable r.resolver (placeholders (.text t)) := by
      refine fun name hname => h name (mem_placeholders ht ?_)
      simpa [placeholders, Value.texts, mem_names_iff] using hname
    rw [render_showable htext]
    rfl
  · rw [render_showable h]
    rfl
  · rw [render_showable h]
    exact ⟨rfl, hnodup, hunheld, rfl⟩
  · rw [render_showable h, render_showable h]
    by_cases hnone : unheld r.resolver (allOccurrences v) = []
    · rw [if_pos (missing_eq_nil_iff.2 hnone)]
      simp only [hnone, ne_eq, not_true_eq_false, and_false, if_false]
    · rw [if_neg fun hm => hnone (missing_eq_nil_iff.1 hm)]
      exact if_pos ⟨rfl, hnone⟩
  · have hsame := hagree.unheld fun name hname => mem_placeholders_iff.2 hname
    have hvalue : v.mapTexts (fillText r'.resolver (shownBy r'.resolver)) =
        v.mapTexts (fillText r.resolver (shownBy r.resolver)) :=
      Value.mapTexts_congr fun t ht => hagree.fillText fun name => mem_placeholders ht
    rw [render_showable h, render_showable (hagree.showable h), hsame, hvalue]
    exact ⟨rfl, rfl⟩

/-- The placeholder of a name that is not held. -/
def unknown : Text := ⟨opener ++ 0x62 :: closer⟩

theorem pieces_unknown : Template.pieces unknown.codes = [.placeholder [] [0x62] []] := by
  have hspecial : special? unknown.codes = some (.placeholder [] [0x62] [], []) := rfl
  rw [pieces_of_special hspecial, pieces_nil]

/-- Two templates in a list and in a table, behind a tuple and under a key that are templates. -/
def nestedTemplates : Value :=
  .list [.tuple [.text unknown], .text tricky, .table [(.text tricky, .text unknown)]]

/-- The tuple and the key stay.  Of the two names the resolver holds one, so the other is
reported. -/
theorem render_containers_nested :
    (∃ become : Text → Text, (render nestedTemplates false trickyRenderer).result =
      .ok (.list [.tuple [.text unknown], .text (become tricky),
        .table [(.text tricky, .text (become unknown))]])) ∧
      (render nestedTemplates true trickyRenderer).result =
        .error (.undefined [.text ⟨[0x62]⟩]) := by
  have hnames : placeholders nestedTemplates = [⟨[0x61]⟩, ⟨[0x62]⟩] := by
    have hlisted : placeholders nestedTemplates = names tricky ++ names unknown := by
      simp [placeholders, nestedTemplates, Value.texts, Value.itemTexts, Value.entryTexts]
    rw [hlisted, names, names, pieces_tricky, pieces_unknown]
    rfl
  have hunheld : trickyRenderer.resolver.find? (.text ⟨[0x62]⟩) = none := by
    simp [trickyRenderer, Resolver.find?, Entries.get?_cons, Entries.get?_nil, Value.equals_text]
  have hshowable : Showable trickyRenderer.resolver (placeholders nestedTemplates) := by
    intro name hname v tier hfound
    rw [hnames, List.mem_cons, List.mem_singleton] at hname
    rcases hname with rfl | rfl
    · rw [find?_trickyRenderer] at hfound
      cases hfound
      exact ⟨_, rfl⟩
    · rw [hunheld] at hfound
      cases hfound
  obtain ⟨⟨become, -, hresult⟩, -, ⟨reported, hordered, hreported, hstrict⟩, -⟩ :=
    render_containers nestedTemplates trickyRenderer hshowable
  have hone : ∀ name, name ∈ reported ↔ name ∈ [(⟨[0x62]⟩ : Text)] := by
    intro name
    rw [hreported, hnames, List.mem_cons, List.mem_singleton, Resolver.holds_eq]
    constructor
    · rintro ⟨rfl | rfl, hn⟩
      · exact absurd hn (by rw [find?_trickyRenderer]; simp)
      · rfl
    · rintro rfl
      exact ⟨.inr rfl, by rw [hunheld]; rfl⟩
  have hnodup : reported.Nodup := hordered.imp fun hbefore he => by
    subst he
    simp [Text.before] at hbefore
  have hlist : reported = [⟨[0x62]⟩] := List.perm_singleton.1
    ((List.perm_ext_iff_of_nodup hnodup (List.nodup_singleton _)).2 hone)
  refine ⟨⟨become, hresult⟩, ?_⟩
  rw [hstrict, hlist]
  rfl

end Renderer

end Template

end Tiered
