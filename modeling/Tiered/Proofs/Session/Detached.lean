import Mathlib
import Tiered.Proofs.Session.Kept
import Tiered.Proofs.Session.Layout

/-!
# Detached — a resolver that its session left behind

Until a session is closed or opened anew by an opening that works, its resolver and one that
somebody took from it are the same tables in memory, and what is written through one is found
through the other (`Layout.Shared`).  From then on the two share no table and no value, and nothing
that is done with one of them matters for the other (`Layout.Separate`, `kept_resolver`).
-/

open Tiered.Action

namespace Tiered

open Files Scene

/-- The ways to a resolver that somebody keeps while a session has it. -/
inductive Way where
  | kept
  | session

/-- A request by a way to the resolver with a number. -/
def Way.ask (id : Nat) : Way → Resolver.Request → Operation
  | kept, q => .askKept id q
  | session, q => .ask q

/-! ### Runs in memory -/

namespace Layout

/-- The session in memory that a run of operations leaves. -/
def after (l : Layout) (os : List Operation) : Layout := os.foldl (fun l o => (o.act l).state) l

/-- What is heard in a run of the operations of a kind. -/
def replies (l : Layout) (kind : Operation → Bool) :
    List Operation → List (Except Failure Resolver.Answer × List Log.Event)
  | [] => []
  | o :: os =>
    let rest := replies (o.act l).state kind os
    if kind o then (o.act l).said :: rest else rest

/-- What the operations of a run come to. -/
def results (l : Layout) (os : List Operation) : List (Except Failure Resolver.Answer) :=
  (l.replies (fun _ => true) os).map Prod.fst

/-- In the run the session is closed, or opened by an opening that works. -/
def detached (l : Layout) : List Operation → Bool
  | [] => false
  | o :: os => o.opens && (o.act l).result.isOk || o.closes && l.current.isSome ||
      detached (o.act l).state os

variable {l : Layout} {id : Nat}

theorem owned_new (disk : Disk) (config : Config) (base : Path) : (new disk config base).Owned where
  memory := by
    refine ⟨?_, ?_, ?_, ?_⟩
    · rintro (_ | i | i) t ht <;> simp_all [new, table?]
    · rintro (_ | i | i) t ht <;> simp_all [new, table?, Memory.table, Bindings.numbers]
    · rintro (_ | i | i) t ht <;> simp_all [new, table?, Memory.table, Bindings.numbers]
    · rintro (_ | i | i) (_ | j | j) t u ht hu hne <;> simp_all [new, table?]
  made id h := absurd h (by simp [new])

/-- What is heard of an operation in memory is what is heard of it. -/
theorem said_act (h : l.Owned) (o : Operation) : (o.act l).said = (o.run l.scene).said := by
  obtain ⟨hresult, hevents, -, -⟩ := o.mirrors_act h
  exact Prod.ext hresult.eq hevents

theorem owned_after (h : l.Owned) (os : List Operation) : (l.after os).Owned := by
  induction os generalizing l with
  | nil => exact h
  | cons o os ih => exact ih (o.mirrors_act h).owned

/-- **A run in memory leaves what the run leaves.** -/
theorem scene_after (h : l.Owned) (os : List Operation) :
    (l.after os).scene = l.scene.after os := by
  induction os generalizing l with
  | nil => rfl
  | cons o os ih =>
      have hmirrors := o.mirrors_act h
      exact (ih hmirrors.owned).trans (congrArg (Scene.after · os) hmirrors.scene)

theorem after_nil (l : Layout) : l.after [] = l := rfl

theorem after_append (l : Layout) (os os' : List Operation) :
    l.after (os ++ os') = (l.after os).after os' :=
  List.foldl_append

theorem current_after (h : l.Owned) (os : List Operation) :
    (l.after os).current = (l.scene.after os).session.current :=
  congrArg (fun s : Scene => s.session.current) (scene_after h os)

theorem disk_after (h : l.Owned) (os : List Operation) :
    (l.after os).disk = (l.scene.after os).disk :=
  congrArg Scene.disk (scene_after h os)

/-- What is heard of a run in memory is what is heard of the run. -/
theorem replies_eq (h : l.Owned) (kind : Operation → Bool) (os : List Operation) :
    l.replies kind os = l.scene.replies kind os := by
  induction os generalizing l with
  | nil => rfl
  | cons o os ih =>
      have hmirrors := o.mirrors_act h
      rw [replies, Scene.replies_cons, said_act h, ih hmirrors.owned, hmirrors.scene]

theorem detached_eq (h : l.Owned) (os : List Operation) :
    l.detached os = (l.scene.steps os).any Step.detaches := by
  induction os generalizing l with
  | nil => rfl
  | cons o os ih =>
      have hmirrors := o.mirrors_act h
      have hresult : (o.act l).result = (o.run l.scene).result := congrArg Prod.fst (said_act h o)
      rw [detached, Scene.steps, List.any_cons, ih hmirrors.owned, hmirrors.scene, hresult]
      rfl

end Layout

/-! ### Requests one behind the other -/

namespace Scene

variable {s : Scene} {id : Nat}

/-- While the session has a resolver, a request to it does the same by either way. -/
theorem run_ask (h : s.session.current = some id) (way : Way) (q : Resolver.Request) :
    (way.ask id q).run s = onResolver id q.run s := by
  cases way with
  | kept => rfl
  | session => exact resolving_of_open s q.run h

/-- A request comes to what it comes to at the resolver, by either way. -/
theorem replies_way (h : s.session.current = some id) (way : Way) (q : Resolver.Request) :
    s.replies (fun _ => true) [way.ask id q] = (s.resolver id).replies [q] := by
  rw [replies_cons, if_pos rfl, run_ask h]
  rfl

/-- Two requests come to what they come to at the resolver, by whichever ways. -/
theorem replies_ways (h : s.session.current = some id) (hid : id < s.resolvers.length)
    (way way' : Way) (q q' : Resolver.Request) :
    s.replies (fun _ => true) [way.ask id q, way'.ask id q'] =
      (s.resolver id).replies [q, q'] := by
  have hresolver : (s.replaced id (q.run (s.resolver id)).state).resolver id =
      (q.run (s.resolver id)).state := (resolver_replaced hid id _).trans (if_pos rfl)
  have hnext : ((way.ask id q).run s).state.session.current = some id := by
    rw [run_ask h]
    exact h
  rw [replies_cons, if_pos rfl, replies_way hnext, run_ask h]
  exact congrArg (fun r : Resolver => _ :: r.replies [q']) hresolver

/-- Behind a reset a request finds the reset point. -/
theorem replies_reset (h : s.session.current = some id) (hid : id < s.resolvers.length)
    (way : Way) (q : Resolver.Request) :
    s.replies (fun _ => true) [.reset, way.ask id q] = (.ok .done, []) ::
      Resolver.replies ⟨Entries.putAll [] s.session.saved, (s.resolver id).environment⟩ [q] := by
  obtain ⟨hok, hsession, hresolver⟩ := resolver_reset h hid
  have hrun : Operation.run .reset s = ⟨.ok .done, (reset s).state, []⟩ := by
    rw [Operation.run, bind_pure_apply, hok, reset_of_open s h]
    rfl
  have hnext : (reset s).state.session.current = some id := by rw [hsession, h]
  rw [replies_cons, if_pos rfl, hrun, replies_way hnext, hresolver]
  rfl

end Scene

namespace Resolver

variable {r : Resolver}

/-- The answers to two requests. -/
def answers (r : Resolver) (q q' : Request) : List (Except Failure Answer) :=
  (r.replies [q, q']).map Prod.fst

theorem result_get (key absent : Value) : ((Request.get key absent).run r).result =
    (Resolver.get key absent r).result.map .value :=
  congrArg Outcome.result (bind_pure_apply _ _ r)

/-- What is set is got. -/
theorem answers_set_get (name : Text) (v absent : Value) :
    r.answers (.set (.text name) v) (.get (.text name) absent) = [.ok .done, .ok (.value v)] := by
  have hget : (Resolver.get (.text name) absent
      { r with overlay := r.overlay.put (.text name) v }).result = .ok v := by
    rw [get_text_result, find?, Entries.get?_put_self]
    rfl
  exact congrArg (fun got => [.ok .done, got]) ((result_get _ _).trans (by rw [hget]))

/-- What is set is in the overlay, and the rest of it stays. -/
theorem answers_set_copy {key : Value} (hkey : checkKey key = .ok ()) (v : Value) :
    r.answers (.set key v) .copy = [.ok .done, .ok (.entries (r.overlay.put key v))] := by
  have hset : set key v r =
      ⟨.ok (), { r with overlay := r.overlay.put key v }, [.variableSet key]⟩ := by
    simp only [set, bind_apply, lift_apply, hkey]
    rfl
  have hrun : (Request.set key v).run r =
      ⟨.ok .done, { r with overlay := r.overlay.put key v }, [.variableSet key]⟩ := by
    rw [Request.run, bind_pure_apply, hset]
    rfl
  rw [answers, replies, hrun]
  rfl

/-- What is restored is in the overlay, and nothing else. -/
theorem answers_restore_copy (es : Entries) :
    r.answers (.restore (.table es)) .copy =
      [.ok .done, .ok (.entries (Entries.putAll [] es))] := rfl

/-- What is changed in place is got as it was changed. -/
theorem answers_change_get {name : Text} {path : List Value} {sub w v changed : Value}
    (hget : (Resolver.get (.text name) .notFound r).result = .ok v)
    (hadd : Value.addAt sub w path v = .ok changed) (absent : Value) :
    r.answers (.change (.text name) path sub w) (.get (.text name) absent) =
      [.ok .done, .ok (.value changed)] := by
  have hstate := change_state r (.text name) path sub w
  rw [hget] at hstate
  simp only [Except.toOption, Option.bind_some, hadd] at hstate
  have hgot : (Resolver.get (.text name) absent
      (Resolver.change (.text name) path sub w r).state).result = .ok changed := by
    rw [hstate, get_text_result, find?]
    split_ifs with hc
    · rw [Entries.get?_put_self]
      rfl
    · rw [Entries.contains, Bool.not_eq_true, Option.isSome_eq_false_iff,
        Option.isNone_iff_eq_none] at hc
      rw [hc, Entries.get?_put_self]
      rfl
  have hresult : (Resolver.change (.text name) path sub w r).result = .ok () := by
    simp only [change, bind_apply, hget, hadd, pure_apply, modify_apply]
  have hrun : (Request.change (.text name) path sub w).run r =
      ⟨.ok .done, (Resolver.change (.text name) path sub w r).state,
        (Resolver.change (.text name) path sub w r).events⟩ := by
    rw [Request.run, bind_pure_apply, hresult]
    rfl
  rw [answers, replies, hrun]
  exact congrArg (fun got => [.ok .done, got]) ((result_get _ _).trans (by rw [hgot]))

end Resolver

/-! ### Sharing and separation -/

namespace Layout

/-- **What is written by one way is found by the other**, and by both of them. -/
structure Shared (l : Layout) (id : Nat) : Prop where
  current : l.current = some id
  /-- Two requests are answered as by one resolver. -/
  one : ∀ (way way' : Way) (q q' : Resolver.Request),
    l.results [way.ask id q, way'.ask id q'] = (l.scene.resolver id).answers q q'
  /-- A value that is set is got. -/
  got : ∀ (way way' : Way) (name : Text) (v absent : Value),
    l.results [way.ask id (.set (.text name) v), way'.ask id (.get (.text name) absent)] =
      [.ok .done, .ok (.value v)]
  /-- A value that is set is in the overlay, and the rest of it stays. -/
  set : ∀ (way way' : Way) (key v : Value), Resolver.checkKey key = .ok () →
    l.results [way.ask id (.set key v), way'.ask id .copy] =
      [.ok .done, .ok (.entries ((l.scene.resolver id).overlay.put key v))]
  /-- The overlay is what it is restored from. -/
  restored : ∀ (way way' : Way) (es : Entries),
    l.results [way.ask id (.restore (.table es)), way'.ask id .copy] =
      [.ok .done, .ok (.entries (Entries.putAll [] es))]
  /-- A value that is changed in place is got as it was changed. -/
  changed : ∀ (way way' : Way) (name : Text) (path : List Value) (sub w v v' absent : Value),
    l.results [way'.ask id (.get (.text name) .notFound)] = [.ok (.value v)] →
      Value.addAt sub w path v = .ok v' →
        l.results [way.ask id (.change (.text name) path sub w),
          way'.ask id (.get (.text name) absent)] = [.ok .done, .ok (.value v')]
  /-- Behind a reset the overlay is the reset point. -/
  reset : ∀ way : Way, l.results [.reset, way.ask id .copy] =
    [.ok .done, .ok (.entries (Entries.putAll [] l.session.saved))]

/-- **The kept resolver and all else do not interfere** in a run. -/
structure Separate (l : Layout) (id : Nat) (os : List Operation) : Prop where
  /-- It is not the resolver of the session any more. -/
  apart : (l.after os).current ≠ some id
  /-- The files are as if nothing had been asked of it. -/
  disk : (l.after os).disk = (l.after (Scene.others id os)).disk
  /-- So is the session with its reset point. -/
  session : (l.after os).session = (l.after (Scene.others id os)).session
  /-- So is the overlay and the environment of every other resolver, that of the session too. -/
  resolvers : ∀ other, other ≠ id →
    (l.after os).scene.resolver other = (l.after (Scene.others id os)).scene.resolver other
  /-- All other operations come to what they come to if nothing is asked of it. -/
  others : l.replies (fun o => (o.keptRequest? id).isNone) os =
    l.replies (fun _ => true) (Scene.others id os)
  /-- It is as if nothing else had been done. -/
  resolver : (l.after os).scene.resolver id =
    (l.scene.resolver id).asked (os.filterMap (Operation.keptRequest? id))
  /-- It answers what it answers if nothing else is done. -/
  kept : l.replies (fun o => (o.keptRequest? id).isSome) os =
    (l.scene.resolver id).replies (os.filterMap (Operation.keptRequest? id))

variable {l : Layout} {id : Nat}

theorem results_ways (h : l.Owned) (hc : l.current = some id) (way way' : Way)
    (q q' : Resolver.Request) :
    l.results [way.ask id q, way'.ask id q'] = (l.scene.resolver id).answers q q' := by
  have hid : id < l.scene.resolvers.length := (h.made id hc).trans_eq (List.length_map _).symm
  rw [results, replies_eq h, Scene.replies_ways hc hid]
  rfl

theorem shared_of_current (h : l.Owned) (hc : l.current = some id) : l.Shared id where
  current := hc
  one := results_ways h hc
  got way way' name v absent :=
    (results_ways h hc _ _ _ _).trans (Resolver.answers_set_get name v absent)
  set way way' key v hkey := (results_ways h hc _ _ _ _).trans (Resolver.answers_set_copy hkey v)
  restored way way' es := (results_ways h hc _ _ _ _).trans (Resolver.answers_restore_copy es)
  changed way way' name path sub w v v' absent hget hadd := by
    refine (results_ways h hc _ _ _ _).trans (Resolver.answers_change_get ?_ hadd absent)
    rw [results, replies_eq h, Scene.replies_way hc] at hget
    have hresult := (Resolver.result_get _ _).symm.trans (List.cons.inj hget).1
    obtain ⟨v', hv, he⟩ := map_eq_ok_iff.1 hresult
    rw [hv, Resolver.Answer.value.inj he]
  reset way := by
    have hid : id < l.scene.resolvers.length := (h.made id hc).trans_eq (List.length_map _).symm
    rw [results, replies_eq h, Scene.replies_reset hc hid]
    rfl

theorem separate_of_apart (h : l.Owned) (ha : l.scene.Apart id) (os : List Operation) :
    l.Separate id os := by
  have hscene : ∀ os, (l.after os).scene = l.scene.after os := scene_after h
  have hafter := Scene.after_replaced ha os (l.scene.resolver id)
  have hothers := Scene.replies_others ha os (l.scene.resolver id)
  have hkept := Scene.replies_kept ha os (l.scene.resolver id)
  rw [Scene.replaced_self] at hafter hothers hkept
  rw [← hscene, ← hscene] at hafter
  have hmade := (Scene.apart_after ha (Scene.others id os)).made
  rw [← hscene] at hmade
  refine ⟨?_, ?_, ?_, fun other hne => ?_, ?_, ?_, ?_⟩
  · have hother := (Scene.apart_after ha os).other
    rw [← hscene] at hother
    exact hother
  · exact congrArg Scene.disk hafter
  · exact congrArg Scene.session hafter
  · rw [hafter, Scene.resolver_replaced_of_ne hne]
  · rw [replies_eq h, replies_eq h, hothers]
  · rw [hafter, Scene.resolver_replaced hmade, if_pos rfl]
  · rw [replies_eq h, hkept]

/-- **A kept resolver is the session's until the session goes on without it.**  Let anything be done
with a session from the beginning, let somebody take its resolver while it is open, and let anything
be done after that.  As long as the session was neither closed nor opened anew by an opening that
works, what is written through the one is found through the other, and the resolver is what the
requests by either way, and the resets, have left.  Once it was, nothing that is done with the one
matters for the other, whatever is done from then on. -/
theorem kept_resolver (disk : Disk) (config : Config) (base : Path) (before os : List Operation)
    (id : Nat) (h : ((new disk config base).after before).current = some id) :
    let l := (new disk config base).after before
    (l.detached os = false → (l.after os).Shared id ∧
      (l.after os).scene.resolver id = (l.scene.resolver id).asked (l.scene.requestsTo id os)) ∧
    (l.detached os = true → ∀ more : List Operation, (l.after os).Separate id more) := by
  intro l
  have howned : l.Owned := owned_after (owned_new disk config base) before
  have hid : id < l.scene.resolvers.length := (howned.made id h).trans_eq (List.length_map _).symm
  have hscene : (l.after os).scene = l.scene.after os := scene_after howned os
  have hopen : l.scene.session.current = some id := h
  rw [detached_eq howned]
  refine ⟨fun hd => ⟨shared_of_current (owned_after howned os) ?_, ?_⟩, fun hd more => ?_⟩
  · rw [current_after howned]
    exact Scene.current_after_of_not_detaches hopen (by simpa using hd)
  · rw [hscene]
    exact Scene.resolver_after hid os
  · refine separate_of_apart (owned_after howned os) ?_ more
    rw [hscene]
    exact Scene.apart_after_of_detaches hid (by simpa using hd)

/-- What is set in a kept resolver is got from the session, and saved, while it has the resolver; a
session that was opened anew does not save it. -/
theorem kept_resolver_stale :
    let start := new listing.disk listing.session.config listing.session.base
    let set : Operation := .askKept 0 (.set (.text "a") (.int 1))
    (start.after [.enter]).current = some 0 ∧
      (start.after [.enter]).Shared 0 ∧
      (start.after [.enter]).results [set, .ask (.get (.text "a") .none)] =
        [.ok .done, .ok (.value (.int 1))] ∧
      (start.after [.enter, set, .save]).disk.node? [[0x77], [0x73]] =
        some (.file (Text.Utf8.encode "\x7b\n  \"a\": 1\n\x7d".toList)) ∧
      (start.after [.enter, .enter]).Separate 0 [set, .save] ∧
      (start.after [.enter, .enter, set, .save]).disk.node? [[0x77], [0x73]] =
        some (.file (Text.Utf8.encode "\x7b\x7d".toList)) := by
  intro start set
  -- what a run in memory leaves is computed on the scene
  have howned : start.Owned := owned_new _ _ _
  have hstart : start.scene = listing := rfl
  have h : (start.after [.enter]).current = some 0 := by
    rw [current_after howned, hstart]
    decide +kernel
  have hanew : (start.after [.enter]).detached [.enter] = true := by
    rw [detached_eq (owned_after howned _), scene_after howned, hstart]
    decide +kernel
  have hfirst := kept_resolver listing.disk listing.session.config listing.session.base [.enter] []
    0 h
  have hsecond := kept_resolver listing.disk listing.session.config listing.session.base [.enter]
    [.enter] 0 h
  have hshared : (start.after [.enter]).Shared 0 := by
    rw [← after_nil (start.after [.enter])]
    exact (hfirst.1 rfl).1
  have hseparate : (start.after [.enter, .enter]).Separate 0 [set, .save] := by
    have happend : start.after [.enter, .enter] = (start.after [.enter]).after [.enter] :=
      after_append start [.enter] [.enter]
    rw [happend]
    exact hsecond.2 hanew _
  refine ⟨h, hshared, hshared.got .kept .session "a" (.int 1) .none, ?_, hseparate, ?_⟩
  · rw [disk_after howned, hstart]
    decide +kernel
  · rw [disk_after howned, hstart]
    decide +kernel

end Layout

end Tiered
