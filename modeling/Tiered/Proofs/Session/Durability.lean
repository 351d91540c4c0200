import Mathlib
import Tiered.Proofs.Session.Open
import Tiered.Proofs.Session.Reload
import Tiered.Proofs.Session.Use
import Tiered.Proofs.Template.Outcome

/-!
# Durability — no set is lost but by opening anew

While a session is used, what was set under a key and not discarded is in its overlay, and what was
filed is in its snapshot file, as it comes back from there (`Durable`).  Every use keeps that
(`Durable.run`), as long as the key holds no pair of surrogates and no other key is read back as it.
So the snapshot of a session that is closed in the end holds the last value that was not discarded
(`load_used`).
-/

namespace Tiered

open Files Store

namespace Entries

/-- What a file can keep is found among what is kept. -/
theorem get?_keep {es : Entries} {k v : Value} (h : es.get? k = some v)
    (hv : v.serializable = true) : es.keep.get? k = some v := by
  induction es with
  | nil => exact absurd h (by simp [get?_nil])
  | cons e es ih =>
      rw [get?_cons] at h
      rw [keep, List.filter_cons]
      split_ifs at h with he
      · obtain rfl := Option.some.inj h
        rw [if_pos hv, get?_cons, if_pos he]
      · split_ifs
        · rw [get?_cons, if_neg he]
          exact ih h
        · exact ih h

/-- No other key of the table is read back as the key. -/
def Sole (key : Text) (es : Entries) : Prop := ∀ t, .text t ∈ es.keys → t.joined = key → t = key

theorem sole_of_unsplit {key : Text} {es : Entries} (h : ∀ e ∈ es, Value.UnsplitKey e.1) :
    es.Sole key := by
  intro t ht hjoined
  obtain ⟨e, he, hkey⟩ := List.mem_map.1 ht
  have hunsplit : t.Unsplit := by
    have := h e he
    rwa [hkey] at this
  rw [← hjoined, Text.joined_of_unsplit hunsplit]

theorem Sole.put {key k : Text} {es : Entries} (h : es.Sole key) (hk : k.joined = key → k = key)
    (v : Value) : (es.put (.text k) v).Sole key := by
  intro t ht
  rw [keys_put] at ht
  split_ifs at ht
  · exact h t ht
  · rcases List.mem_append.1 ht with ht | ht
    · exact h t ht
    · obtain rfl := Value.text.inj (List.mem_singleton.1 ht)
      exact hk

theorem Sole.keep {key : Text} {es : Entries} (h : es.Sole key) : es.keep.Sole key := by
  intro t ht
  obtain ⟨e, he, hkey⟩ := List.mem_map.1 ht
  exact h t (hkey ▸ List.mem_map_of_mem (mem_keep.1 he).1)

/-- **Under a key without pairs, as which no other key is read back, what comes back of the value is
found.** -/
theorem get?_reread {es : Entries} {key : Text} (htexts : es.TextKeys) (hdistinct : es.Distinct)
    (hsole : es.Sole key) (hkey : key.Unsplit) :
    es.reread.get? (.text key) = (es.get? (.text key)).map Value.reread := by
  -- the induction is on what is still to be written into the table that was read so far
  suffices h : ∀ before : Entries, before.TextKeys →
      (before.putAll (es.map fun e => (e.1.joinedKey, e.2.reread))).get? (.text key) =
        ((es.get? (.text key)).map Value.reread).or (before.get? (.text key)) by
    simpa [reread, ofPairs, get?_nil] using h [] (List.forall_mem_nil _)
  induction es with
  | nil => exact fun before _ => rfl
  | cons e es ih =>
      intro before hbefore
      obtain ⟨k, v⟩ := e
      obtain ⟨⟨t, ht⟩, hrest⟩ := List.forall_mem_cons.1 htexts
      obtain ⟨hnew, hothers⟩ := List.pairwise_cons.1 hdistinct
      dsimp only at ht
      subst ht
      have hsoleRest : Sole key es := fun t ht => hsole t (List.mem_cons_of_mem _ ht)
      have hput : (before.put (.text t.joined) v.reread).TextKeys := textKeys_put hbefore _ _
      have hstep := ih hrest hothers hsoleRest _ hput
      rw [List.map_cons]
      refine hstep.trans ?_
      rw [get?_cons, Value.equals_text]
      by_cases hk : t = key
      · -- no later entry has the same key
        subst hk
        have hnone : get? es (.text t) = none := by
          rw [get?_eq_none_iff hrest]
          intro hmem
          obtain ⟨f, hf, hsame⟩ := List.mem_map.1 hmem
          have hne := hnew f hf
          rw [hsame, Value.equals_text, beq_self_eq_true] at hne
          exact absurd hne (by simp)
        rw [hnone, Text.joined_of_unsplit hkey, get?_put_self, beq_self_eq_true, if_pos rfl]
        rfl
      · have hjoined : t.joined ≠ key := fun h => hk (hsole t List.mem_cons_self h)
        rw [get?_put_of_ne hbefore hjoined, beq_false_of_ne hk, if_neg Bool.false_ne_true]

/-- The table has the value under a key, or another one that a file can keep and that is the same
when it comes back. -/
def Has (es : Entries) (key : Text) (v : Value) : Prop :=
  ∃ w, es.get? (.text key) = some w ∧ w.serializable = true ∧ w.reread = v.reread

/-- What comes back of a value that a table has is found in what comes back of what is kept. -/
theorem Has.get?_reread_keep {es : Entries} {key : Text} {v : Value} (h : es.Has key v)
    (hes : es.Regular) (hsole : es.Sole key) (hkey : key.Unsplit) :
    es.keep.reread.get? (.text key) = some v.reread := by
  obtain ⟨w, hw, hserializable, hwv⟩ := h
  rw [get?_reread hes.keep.texts hes.keep.distinct hsole.keep hkey, get?_keep hw hserializable,
    Option.map_some, hwv]

end Entries

namespace Scene

variable {s : Scene} {id : Nat} {key : Text} {m : Mark}

/-! ### What the uses leave -/

/-- An action that leaves every resolver leaves the scene. -/
theorem resolving_state {α : Type} {a : Action Resolver α} (hmade : s.Made)
    (ha : Action.Keeps (fun r => r) a) : (resolving a s).state = s := by
  cases h : s.session.current with
  | none => rw [resolving_of_closed s a h]
  | some id =>
      have hthere : id < s.resolvers.length := hmade id h
      have hkept : (a (s.resolver id)).state = s.resolver id := ha _
      rw [resolving_of_open s a h, hkept]
      simp [resolver, hthere]

theorem run_get_state (hmade : s.Made) (key : Text) (absent : Value) :
    ((Use.get key absent).run s).state = s := by
  rw [Use.run, Action.bind_pure_apply]
  refine resolving_state hmade fun r => ?_
  rw [Resolver.get_eq, Resolver.lookup_text_state]

theorem run_render_state (hmade : s.Made) (v : Value) (strict : Bool) :
    ((Use.render v strict).run s).state = s := by
  rw [Use.run, Action.bind_pure_apply]
  exact resolving_state hmade fun r => Template.render_state v strict r

/-- The environment file of the session is there, or is not to be made. -/
def Settled (s : Scene) : Prop :=
  Store.Settled s.environmentPath s.session.config.createMissing s.disk

theorem environmentOutcome_state_of_settled (h : s.Settled) : s.environmentOutcome.state = s.disk :=
  loadEnvironment_state_of_settled h

/-- An end that does not fail is a closing, with an error on its way or without. -/
theorem exit_of_close_ok (h : (close s).result = .ok ()) (failing : Bool) :
    exit failing s = close s := by
  cases failing with
  | false => rfl
  | true =>
      have hexit : exit true s = closeOnError s := rfl
      rw [hexit, closeOnError_eq, h]

/-! ### What is kept through all uses -/

/-- The last value of a key that was not discarded is in the overlay of the open session, and what
comes back of the one that was filed is in the snapshot file.  A session that is not open has no
fresh value, and one that was opened makes no environment file any more. -/
structure Durable (key : Text) (s : Scene) (m : Mark) : Prop where
  persists : s.session.config.persistSnapshot = true
  closed : s.session.current = none → m.fresh = none
  settled : s.session.isOpen = true ∨ m.filed.isSome = true → s.Settled
  made : s.Made
  regular : ∀ es, s.overlay? = some es → es.Regular
  sole : ∀ es, s.overlay? = some es → es.Sole key
  overlay : ∀ es, s.overlay? = some es → ∀ v, m.last = some v → v.serializable = true → es.Has key v
  filed : ∀ v, m.filed = some v → v.serializable = true →
    ∃ es, (loadSnapshot s.session.snapshotPath s.disk).result = .ok es ∧
      es.get? (.text key) = some v.reread

theorem overlay?_of_open (h : s.session.current = some id) :
    s.overlay? = some (s.resolver id).overlay := by
  rw [overlay?, h]
  rfl

theorem isOpen_of_open (h : s.session.current = some id) : s.session.isOpen = true := by
  rw [Session.isOpen, h]
  rfl

/-- A session that is not open and of which nothing was filed keeps all that is asked for. -/
theorem durable_of_closed (hp : s.session.config.persistSnapshot = true)
    (h : s.session.current = none) : Durable key s .blank := by
  have hoverlay : s.overlay? = none := by rw [overlay?, h]; rfl
  refine ⟨hp, fun _ => rfl, ?_, ?_, ?_, ?_, ?_, ?_⟩
  · simp [Session.isOpen, h, Mark.blank]
  · simp [Made, h]
  · simp [hoverlay]
  · simp [hoverlay]
  · simp [hoverlay]
  · simp [Mark.blank]

/-- Opening that works discards what is fresh. -/
theorem Durable.enter_ok (hd : s.Durable key m) (hok : (enter s).result = .ok ()) :
    (enter s).state.Durable key { m with fresh := none } := by
  rw [enter_eq] at hok ⊢
  cases he : s.environmentOutcome.result with
  | error failure => simp [he] at hok
  | ok environment =>
      cases hl : s.snapshotOutcome.result with
      | error failure => simp [he, hl] at hok
      | ok saved =>
          have hgives := (gives_of_loadSnapshot hl).entries
          -- what was filed is in what was loaded
          have hfiled : ∀ v, m.filed = some v → v.serializable = true →
              (loadSnapshot s.session.snapshotPath s.environmentOutcome.state).result = .ok saved ∧
                saved.get? (.text key) = some v.reread := by
            intro v hv hs
            obtain ⟨es, hes, hget⟩ := hd.filed v hv hs
            have hsettled := hd.settled (.inr (by rw [hv]; rfl))
            rw [snapshotOutcome, environmentOutcome_state_of_settled hsettled, hes] at hl
            obtain rfl := Except.ok.inj hl
            exact ⟨by rw [environmentOutcome_state_of_settled hsettled, hes], hget⟩
          simp only [snapshotOutcome_state]
          refine ⟨hd.persists, fun _ => rfl, fun _ => settled_of_loadEnvironment he, ?_, ?_, ?_, ?_,
            ?_⟩
          · simp [Made]
          · simpa [overlay?, resolver] using regular_of_loadSnapshot hl
          · simpa [overlay?, resolver] using Entries.sole_of_unsplit hgives.unsplit
          · intro es hes v hv hs
            obtain rfl : saved = es := by simpa [overlay?, resolver] using hes
            exact ⟨v.reread, (hfiled v hv hs).2, Value.serializable_reread hs,
              Value.reread_reread v⟩
          · exact fun v hv hs => ⟨saved, hfiled v hv hs⟩

/-- Opening that fails leaves what is kept. -/
theorem Durable.enter_error (hd : s.Durable key m) {failure : Failure}
    (hf : (enter s).result = .error failure) : (enter s).state.Durable key m := by
  have hstate : (enter s).state = { s with disk := s.environmentOutcome.state } := by
    rw [enter_eq] at hf ⊢
    cases he : s.environmentOutcome.result with
    | error failure => rfl
    | ok environment =>
        cases hl : s.snapshotOutcome.result with
        | error failure => simp only [snapshotOutcome_state]
        | ok saved => simp [he, hl] at hf
  rw [hstate]
  by_cases h : s.session.isOpen = true ∨ m.filed.isSome = true
  · rwa [environmentOutcome_state_of_settled (hd.settled h)]
  · -- nothing was filed, and the session is not open
    obtain ⟨hclosed, hfiled⟩ := not_or.1 h
    have hcurrent : s.session.current = none := by simpa [Session.isOpen] using hclosed
    obtain rfl : m = .blank := by
      obtain ⟨fresh, filed⟩ := m
      obtain rfl : fresh = none := hd.closed hcurrent
      obtain rfl : filed = none := by simpa using hfiled
      rfl
    exact durable_of_closed hd.persists hcurrent

/-- What is set is fresh. -/
theorem Durable.set (hd : s.Durable key m) (h : s.session.current = some id) {k : Text}
    (hk : k.joined = key → k = key) {v : Value} (hv : v.Regular) :
    (s.overlaid id ((s.resolver id).overlay.put (.text k) v)).Durable key
      (m.after key (.set k v, true)) := by
  have hregular := hd.regular _ (overlay?_of_open h)
  have hoverlay : (s.overlaid id ((s.resolver id).overlay.put (.text k) v)).overlay? =
      some ((s.resolver id).overlay.put (.text k) v) := by
    rw [overlay?_of_open (s := s.overlaid id _) h, resolver_overlaid (hd.made id h)]
  have hfiled : (m.after key (.set k v, true)).filed = m.filed := by
    rw [Mark.after]
    split_ifs <;> rfl
  refine ⟨hd.persists, fun hn => ?_, fun _ => hd.settled (.inl (isOpen_of_open h)),
    fun other ho => ?_, fun es hes => ?_, fun es hes => ?_, fun es hes w hw hs => ?_,
    fun w hw => ?_⟩
  · exact absurd (h.symm.trans hn) (by simp)
  · simpa [overlaid] using hd.made other ho
  · obtain rfl := Option.some.inj (hoverlay.symm.trans hes)
    exact hregular.put k hv
  · obtain rfl := Option.some.inj (hoverlay.symm.trans hes)
    exact (hd.sole _ (overlay?_of_open h)).put hk v
  · obtain rfl := Option.some.inj (hoverlay.symm.trans hes)
    rw [Mark.after] at hw
    split_ifs at hw with hsame
    -- the key itself, and another one
    · subst hsame
      obtain rfl : v = w := by simpa [Mark.last] using hw
      exact ⟨v, Entries.get?_put_self _ _ _, hs, rfl⟩
    · obtain ⟨x, hx, hxw⟩ := hd.overlay _ (overlay?_of_open h) w hw hs
      exact ⟨x, by rw [Entries.get?_put_of_ne hregular.texts hsame, hx], hxw⟩
  · rw [hfiled] at hw
    exact hd.filed w hw

/-- **A save works where the disk admits the snapshot, and files what is fresh.** -/
theorem Durable.save_ok (hd : s.Durable key m) (hkey : key.Unsplit)
    (h : s.session.current = some id) (ha : s.disk.Admits s.session.snapshotPath) :
    (∃ kept, (save s).result = .ok kept) ∧ (save s).state.Durable key ⟨none, m.last⟩ := by
  have hoverlay := overlay?_of_open h
  have hregular := hd.regular _ hoverlay
  obtain ⟨kept, hkept⟩ := (exists_saveSnapshot_iff hregular).2 ha
  have hs : (save s).result = .ok kept := (save_result s h).trans hkept
  refine ⟨⟨kept, hs⟩, ?_⟩
  rw [save_of_open s h]
  simp only [hkept]
  refine ⟨hd.persists, fun _ => rfl, fun _ => ?_, hd.made, hd.regular, hd.sole, hd.overlay,
    fun v hv hs => ?_⟩
  · exact (hd.settled (.inl (isOpen_of_open h))).grows (grows_of_saved hkept)
  · refine ⟨_, congrArg Outcome.result (loadSnapshot_of_saved hkept hregular rfl), ?_⟩
    exact (hd.overlay _ hoverlay v hv hs).get?_reread_keep hregular (hd.sole _ hoverlay) hkey

/-- Releasing the resolver keeps what was filed. -/
theorem Durable.released (hd : s.Durable key m) (hf : m.fresh = none) :
    s.released.Durable key m := by
  refine ⟨hd.persists, fun _ => hf, fun h => hd.settled ?_, ?_, ?_, ?_, ?_, hd.filed⟩
  · exact .inr (h.resolve_left (by simp [Scene.released, Session.isOpen]))
  · simp [Made, Scene.released]
  · simp [overlay?, Scene.released]
  · simp [overlay?, Scene.released]
  · simp [overlay?, Scene.released]

/-- **A closing works where the disk admits the snapshot, and files what is fresh.** -/
theorem Durable.close_ok (hd : s.Durable key m) (hkey : key.Unsplit)
    (ha : s.session.isOpen = true → s.disk.Admits s.session.snapshotPath) :
    (close s).result = .ok () ∧ (close s).state.Durable key ⟨none, m.last⟩ := by
  cases h : s.session.current with
  | none =>
      rw [close_of_closed s h]
      have hfresh := hd.closed h
      have hm : (⟨none, m.last⟩ : Mark) = m := by
        rw [Mark.last, hfresh, Option.none_or, ← hfresh]
      exact ⟨rfl, hm ▸ hd⟩
  | some id =>
      obtain ⟨⟨kept, hs⟩, hsaved⟩ := hd.save_ok hkey h (ha (isOpen_of_open h))
      have hpersist : persist s = saveOnly s := if_pos hd.persists
      rw [close_of_open s h, hpersist, saveOnly_eq, hs]
      exact ⟨rfl, hsaved.released rfl⟩

/-- **Every use keeps what was set and not discarded.** -/
theorem Durable.run (hd : s.Durable key m) (hkey : key.Unsplit) {u : Use} (hr : u.Regular)
    (hu : u.Spares key)
    (ha : u.Saves → s.session.isOpen = true → s.disk.Admits s.session.snapshotPath) :
    (u.run s).state.Durable key (m.after key (u, (u.run s).result.isOk)) := by
  cases u with
  | enter =>
      cases hok : ((Use.enter).run s).result with
      | ok done => exact hd.enter_ok hok
      | error failure => exact hd.enter_error hok
  | set k v =>
      cases h : s.session.current with
      | none =>
          have hrun : (Use.set k v).run s = ⟨.error .sessionNotOpen, s, []⟩ :=
            resolving_of_closed s _ h
          rw [hrun]
          exact hd
      | some id =>
          rw [Use.run, set_of_open s h]
          exact hd.set h hu hr
  | get k absent =>
      rw [run_get_state hd.made]
      cases ((Use.get k absent).run s).result <;> exact hd
  | render v strict =>
      rw [run_render_state hd.made]
      cases ((Use.render v strict).run s).result <;> exact hd
  | save =>
      rw [Use.run, saveOnly_eq]
      cases h : s.session.current with
      | none =>
          rw [save_of_closed s h]
          exact hd
      | some id =>
          obtain ⟨⟨kept, hs⟩, hsaved⟩ := hd.save_ok hkey h (ha trivial (isOpen_of_open h))
          rw [hs]
          exact hsaved
  | close =>
      obtain ⟨hok, hclosed⟩ := hd.close_ok hkey (ha trivial)
      rw [Use.run, hok]
      exact hclosed
  | exit failing =>
      obtain ⟨hok, hclosed⟩ := hd.close_ok hkey (ha trivial)
      rw [Use.run, exit_of_close_ok hok, hok]
      exact hclosed

/-- **A row of uses keeps what was set and not discarded.** -/
theorem Durable.used (hd : s.Durable key m) (hkey : key.Unsplit) {uses : List Use}
    (hr : ∀ u ∈ uses, u.Regular) (hu : ∀ u ∈ uses, u.Spares key) (hw : s.Works uses) :
    (s.used uses).Durable key ((s.history uses).foldl (Mark.after key) m) := by
  induction uses generalizing s m with
  | nil => exact hd
  | cons u us ih =>
      rw [List.forall_mem_cons] at hr hu
      exact ih (hd.run hkey hr.1 hu.1 hw.1) hr.2 hu.2 hw.2

/-- **No set is lost but by opening anew.**  Let a session that is not open, and that saves when it
is closed, be used in any way, where the disk admits its snapshot whenever it is saved, and be
closed in the end.  Let a key hold no high surrogate right before a low one, and let no other key
that is set be read back as it.

* The last value that was set under the key and not discarded, if a file can keep it, is what the
  snapshot file is loaded with under the key, as it comes back from there.  That is the value with
  lists in the place of tuples exactly when there is no such pair in it.
* Where opening never came upon a fresh value of the key, that is the last value that was set. -/
theorem load_used (hp : s.session.config.persistSnapshot = true) (hc : s.session.current = none)
    {uses : List Use} (hr : ∀ u ∈ uses, u.Regular) (hw : s.Works uses)
    (hend : (s.used uses).session.isOpen = false) {key : Text} (hkey : key.Unsplit)
    (hu : ∀ u ∈ uses, u.Spares key) :
    (∀ v, (Mark.of key (s.history uses)).last = some v → v.serializable = true →
      (∃ es, (loadSnapshot (s.used uses).session.snapshotPath (s.used uses).disk).result = .ok es ∧
        es.get? (.text key) = some v.reread) ∧
      (v.Sound → (v.reread = v.listed ↔ v.Unsplit))) ∧
    (Undiscarded key (s.history uses) →
      (Mark.of key (s.history uses)).last = lastSet key (s.history uses)) := by
  refine ⟨fun v hv hs => ⟨?_, Value.reread_eq_listed_iff⟩, last_of_undiscarded⟩
  have hd : (s.used uses).Durable key (Mark.of key (s.history uses)) :=
    (durable_of_closed hp hc).used hkey hr hu hw
  have hfresh := hd.closed (by simpa [Session.isOpen] using hend)
  rw [Mark.last, hfresh, Option.none_or] at hv
  exact hd.filed v hv hs

/-- A tuple that was saved is in the snapshot file as a list, although another value was set behind
it: that one was discarded when the session was opened anew, and an error ended the session. -/
theorem load_used_restarted :
    let uses : List Use := [.enter, .set "k" (.tuple [.text "a"]), .get "k" .none, .save,
      .set "k" (.text "b"), .enter, .render (.text "c") true, .exit true]
    (Mark.of "k" (untouched.history uses)).last = some (.tuple [.text "a"]) ∧
      ∃ es, (loadSnapshot (untouched.used uses).session.snapshotPath
          (untouched.used uses).disk).result = .ok es ∧
        es.get? (.text "k") = some (.list [.text "a"]) := by
  intro uses
  have hhistory : untouched.history uses =
      uses.zip [true, true, true, true, true, true, true, true] :=
    List.zip_of_prod rfl (by decide +kernel)
  have hlast : (Mark.of "k" (untouched.history uses)).last = some (.tuple [.text "a"]) := by
    rw [hhistory]
    rfl
  have hregular : ∀ u ∈ uses, u.Regular := by
    simp only [uses, List.forall_mem_cons]
    exact ⟨trivial, ⟨⟨trivial, trivial⟩, fun _ => ⟨trivial, trivial⟩⟩, trivial, trivial,
      ⟨trivial, fun _ => trivial⟩, trivial, trivial, trivial, by simp⟩
  have hworks : untouched.Works uses :=
    ⟨False.elim, False.elim, False.elim, fun _ _ => by decide +kernel, False.elim, False.elim,
      False.elim, fun _ _ => by decide +kernel, trivial⟩
  have hkey : (Text.ofString "k").Unsplit := Text.unsplit_ofString "k"
  have hspares : ∀ u ∈ uses, u.Spares "k" := by
    simp [uses, Use.Spares]
  have hload := (load_used rfl rfl hregular hworks (by decide +kernel) hkey hspares).1 _ hlast
    (by decide)
  rw [(hload.2 ⟨trivial, trivial⟩).2 ⟨Text.unsplit_ofString "a", trivial⟩] at hload
  exact ⟨hlast, hload.1⟩

/-- A value that was set is not in the snapshot file of the closed session, though every use worked:
the session was opened anew before it was closed. -/
theorem load_used_discarded :
    let uses : List Use := [.enter, .set "k" (.text "a"), .enter, .close]
    (untouched.history uses).all (fun x => x.2) = true ∧
      (untouched.used uses).session.isOpen = false ∧
      (lastSet "k" (untouched.history uses)).bind Value.text? = some "a" ∧
      (loadSnapshot (untouched.used uses).session.snapshotPath
        (untouched.used uses).disk).result.toOption.map (fun es => es.contains (.text "k")) =
          some false := by
  decide +kernel

end Scene

end Tiered
