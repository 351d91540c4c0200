import Mathlib
import Tiered.Proofs.Resolver.Effect
import Tiered.Proofs.Session.Asked
import Tiered.Proofs.Session.Opened
import Tiered.Proofs.Session.Reload
import Tiered.Proofs.Template.Filling

/-!
# Environment — what becomes of the environment of a session

Opening a session loads an environment into a new resolver.  Whatever is done afterwards, its names
stay, and the value under a name is the one that was loaded, revised by the changes in place that
reached it.  That is what a look-up finds there, in every state, and what a name resolves to behind
a reset when the reset point does not hold it (`environment_after`).

Values have no identity here: one that is written is another one than the one that it was got from.
This makes no difference to the runs in question, in which nothing is written that can change in
place (`UnsharedRun`).
-/

open Tiered.Action

namespace Tiered

open Files Store

namespace Template

/-- A template that is one placeholder becomes the text of the value of its name. -/
theorem render_placeholder {t name : Text} {before behind : List Code} {r : Resolver} {v : Value}
    {tier : Tier} (hp : pieces t.codes = [.placeholder before name.codes behind])
    (hf : r.find? (.text name) = some (v, tier)) (strict : Bool) :
    (render (.text t) strict r).result = (valueText v).map .text := by
  have hanswer : r.answer (.text name) name = ⟨name, true, v, tier⟩ := by
    rw [Resolver.answer, hf]
  have hlookup : Resolver.lookup (.text name) r =
      ⟨.ok ⟨name, true, v, tier⟩, r, [.variableResolved (.text name) tier.name]⟩ := by
    have hname : Resolver.nameOf (.text name) = .ok name := rfl
    simp only [Resolver.lookup_text, hname, hanswer]
  simp only [render, Renderer.render, Renderer.value, Renderer.text, hp, Renderer.pieces,
    Renderer.piece, Renderer.onResolver, Action.focus, Action.bind_apply, Action.modify_apply,
    hlookup, if_true, Action.lift_apply]
  cases valueText v with
  | error failure => rfl
  | ok shown =>
      -- no name was noted, so it does not matter whether rendering is strict
      simp only [Action.pure_apply, Action.read_apply, List.isEmpty_nil, Bool.not_true,
        Bool.and_false, Bool.false_eq_true, if_false, List.append_nil]
      rfl

end Template

namespace Resolver

/-- What looking up a name says that at most the environment has. -/
def fromEnvironment (name : Text) : Option Value → Lookup
  | some v => ⟨name, true, v, .environment⟩
  | none => ⟨name, false, .none, .none⟩

/-- What the overlay does not hold is looked for in the environment. -/
theorem find?_of_not_held {r : Resolver} {key : Value} (h : r.overlay.contains key = false) :
    r.find? key = (r.environment.get? key).map fun v => (v, .environment) := by
  rw [Entries.contains, Option.isSome_eq_false_iff, Option.isNone_iff_eq_none] at h
  rw [find?, h]

theorem answer_of_not_held {r : Resolver} {name : Text}
    (h : r.overlay.contains (.text name) = false) :
    r.answer (.text name) name = fromEnvironment name (r.environment.get? (.text name)) := by
  rw [answer, find?_of_not_held h]
  cases r.environment.get? (.text name) <;> rfl

/-- What is found in the environment is its value there. -/
theorem get?_of_answer {r : Resolver} {name : Text}
    (h : (r.answer (.text name) name).tier = .environment) :
    r.environment.get? (.text name) = some (r.answer (.text name) name).value := by
  rw [answer, find?] at h ⊢
  cases ho : r.overlay.get? (.text name) with
  | some v => simp [ho] at h
  | none =>
      cases he : r.environment.get? (.text name) with
      | none => simp [ho, he] at h
      | some v => rfl

end Resolver

namespace Scene

variable {s : Scene} {id : Nat}

/-- What the session says about a name that at most its environment has: looking it up and getting
it give its value there, and so does rendering a placeholder of it. -/
structure Resolves (s : Scene) (name : Text) (value? : Option Value) : Prop where
  lookup : (resolving (Resolver.lookup (.text name)) s).result =
    .ok (Resolver.fromEnvironment name value?)
  get : ∀ absent, (resolving (Resolver.get (.text name) absent) s).result =
    .ok (value?.getD absent)
  render : ∀ (t : Text) (before behind : List Code) (v : Value) (strict : Bool),
    Template.pieces t.codes = [.placeholder before name.codes behind] → value? = some v →
      (Scene.render (.text t) strict s).result = (Template.valueText v).map .text

/-- **A name that the overlay does not hold resolves to its value in the environment.** -/
theorem resolves_of_not_held {name : Text} (h : s.session.current = some id)
    (hn : (s.resolver id).overlay.contains (.text name) = false) :
    s.Resolves name ((s.resolver id).environment.get? (.text name)) := by
  have hfind := Resolver.find?_of_not_held hn
  refine ⟨?_, fun absent => ?_, fun t before behind v strict hp hv => ?_⟩
  · rw [resolving_of_open s _ h, ← Resolver.answer_of_not_held hn]
    exact Resolver.lookup_text_result _ _
  · rw [resolving_of_open s _ h, Resolver.get_text_result, hfind, Option.map_map]
    exact congrArg (fun v? => Except.ok (v?.getD absent)) (congrFun Option.map_id _)
  · rw [Scene.render, resolving_of_open s _ h]
    exact Template.render_placeholder hp (hfind.trans (congrArg _ hv)) strict

/-- Resetting leaves in the overlay what the reset point holds. -/
theorem resolver_reset (h : s.session.current = some id) (hid : id < s.resolvers.length) :
    (reset s).result = .ok () ∧ (reset s).state.session = s.session ∧
      (reset s).state.resolver id =
        ⟨Entries.putAll [] s.session.saved, (s.resolver id).environment⟩ := by
  rw [reset_of_open s h]
  exact ⟨rfl, rfl, (resolver_replaced hid id _).trans (if_pos rfl)⟩

/-- **Behind a reset, a name that the reset point does not hold resolves to its value in the
environment.** -/
theorem resolves_reset {name : Text} (h : s.session.current = some id)
    (hid : id < s.resolvers.length) (hn : s.session.saved.contains (.text name) = false) :
    (reset s).result = .ok () ∧
      (reset s).state.Resolves name ((s.resolver id).environment.get? (.text name)) := by
  obtain ⟨hok, hsession, hresolver⟩ := resolver_reset h hid
  have hopen : (reset s).state.session.current = some id := by rw [hsession, h]
  have hheld : ((reset s).state.resolver id).overlay.contains (.text name) = false := by
    rw [hresolver]
    exact Entries.contains_putAll_eq_false rfl hn
  have hresolves := resolves_of_not_held hopen hheld
  rw [hresolver] at hresolves
  exact ⟨hok, hresolves⟩

/-- Nothing that the request writes can change in place, so that it shares nothing with what
somebody keeps. -/
def Unshared : Resolver.Request → Prop
  | .set _ v => v.unhashable? = none
  | .restore v => ∀ e ∈ Resolver.restored v, e.2.unhashable? = none
  | .change _ _ _ v => v.unhashable? = none
  | _ => True

/-- Operations that write nothing which could be shared. -/
structure UnsharedRun where
  operations : List Operation
  ask : ∀ q, .ask q ∈ operations → Unshared q
  askKept : ∀ id q, .askKept id q ∈ operations → Unshared q

/-- **What becomes of the environment of a session.**  Let opening work, and anything be done
afterwards that writes nothing which could be shared.  As long as no change in place reaches the
environment, it is what was loaded.  In every state a look-up that finds a name in the environment
gives the value that was loaded, revised by the changes in place that reached it; where none did,
that is the value itself.  And behind a reset, every name that the reset point does not hold
resolves to that value. -/
theorem environment_after (h : (enter s).result = .ok ()) (run : UnsharedRun) :
    ∃ environment : Entries, s.environmentOutcome.result = .ok environment ∧
      let id := s.resolvers.length
      let r := (enter s).state.resolver id
      let qs := (enter s).state.requestsTo id run.operations
      let t := (enter s).state.after run.operations
      ((∀ name, r.reached name qs = false) → (t.resolver id).environment = environment) ∧
      ∀ name : Text,
        let value? := (environment.get? (.text name)).map (r.revised name qs)
        (r.reached name qs = false → value? = environment.get? (.text name)) ∧
        (∀ l, (Resolver.lookup (.text name) (t.resolver id)).result = .ok l →
          l.tier = .environment → value? = some l.value) ∧
        (t.session.current = some id → t.session.saved.contains (.text name) = false →
          (reset t).result = .ok () ∧ (reset t).state.Resolves name value?) := by
  obtain ⟨environment, saved, he, -, hstate⟩ := enter_installs h
  refine ⟨environment, he, ?_⟩
  intro id r qs t
  have hlength : id < (enter s).state.resolvers.length := by
    rw [hstate]
    simp [id]
  have hr : r.environment = environment := by
    simp [r, id, hstate, resolver]
  have hgives := (gives_of_loadEnvironment he).entries
  have hafter : t.resolver id = r.asked qs := resolver_after hlength run.operations
  obtain ⟨-, hvalue⟩ := Resolver.environment_asked (r := r) (hr ▸ hgives.texts) qs
  rw [← hafter, hr] at hvalue
  refine ⟨fun hall => ?_, fun name =>
    ⟨fun hn => ?_, fun l hl htier => ?_, fun hopen hpoint => ?_⟩⟩
  · rw [hafter, ← hr]
    exact Resolver.environment_of_not_reached (hr ▸ hgives.texts) (hr ▸ hgives.distinct) hall
  · cases environment.get? (.text name) with
    | none => rfl
    | some v => exact congrArg some (Resolver.revised_of_not_reached hn v)
  · have hanswer : (Resolver.lookup (.text name) (t.resolver id)).result =
        .ok ((t.resolver id).answer (.text name) name) := Resolver.lookup_text_result _ _
    obtain rfl := Except.ok.inj (hanswer.symm.trans hl)
    exact (hvalue name).symm.trans (Resolver.get?_of_answer htier)
  · have hmade : id < t.resolvers.length := hlength.trans_le (length_after _ run.operations)
    rw [← hvalue]
    exact resolves_reset hopen hmade hpoint

/-- A session that was not opened yet, in the folder `/w`, whose environment has an empty list. -/
def listing : Scene where
  disk := ⟨[([[0x77]], .folder), ([[0x77], [0x65]], .file (Text.Utf8.encode
    "\x7b\"dev\":\x7b\"k\":[]\x7d\x7d".toList))], [[0x77]]⟩
  resolvers := []
  session :=
    .new { Config.default with envFile := "e", snapshotFile := "s" } ⟨[slash], [[0x77]]⟩

/-- A number is set in the place of the list. -/
def replacing : UnsharedRun where
  operations := [.ask (.set (.text "k") (.int 1))]
  ask q hq := by
    obtain rfl : q = .set (.text "k") (.int 1) := by simpa using hq
    exact (rfl : (Value.int 1).unhashable? = none)
  askKept id q hq := absurd hq (by simp)

/-- A number that is set in the place of the list and taken back by resetting leaves the list. -/
theorem environment_after_set :
    ∃ environment, listing.environmentOutcome.result = .ok environment ∧
      environment.contains (.text "k") = true ∧
      (reset ((enter listing).state.after replacing.operations)).state.Resolves "k"
        (environment.get? (.text "k")) := by
  obtain ⟨u, h⟩ := exists_ok_of_isSome
    (show (enter listing).result.toOption.isSome = true by decide +kernel)
  obtain ⟨environment, he, -, hname⟩ := environment_after h replacing
  have hin : listing.environmentOutcome.result.toOption.map
      (fun environment => environment.contains (.text "k")) = some true := by decide +kernel
  rw [he] at hin
  obtain ⟨hkept, -, hreset⟩ := hname "k"
  rw [hkept (by decide +kernel)] at hreset
  exact ⟨environment, he, Option.some.inj hin,
    (hreset (by decide +kernel) (by decide +kernel)).2⟩

/-- The list takes one more item, and resetting does not take it back. -/
theorem environment_after_changed :
    let got (s : Scene) (v : Value) : Option Bool :=
      (resolving (Resolver.get (.text "k") .none) s).result.toOption.map v.equals
    let opened := (enter listing).state
    let restored := opened.after [.ask (.change (.text "k") [] .none (.text "b")), .reset]
    got opened (.list []) = some true ∧ restored.session.saved.contains (.text "k") = false ∧
      got restored (.list []) = some false ∧ got restored (.list [.text "b"]) = some true := by
  decide +kernel

end Scene

end Tiered
