import Mathlib
import Tiered.Proofs.Resolver.Alike
import Tiered.Proofs.Session.Growth
import Tiered.Proofs.Session.Open
import Tiered.Proofs.Store.Alike
import Tiered.Proofs.Template.Alike

/-!
# Alike — runs that nothing that is told tells apart

Two scenes are alike if they differ in values only: those of the resolvers and of the reset point,
and those that stand in the two files.  Operations are alike if they differ in the values that are
written only.  Alike operations on alike scenes tell the same and leave alike scenes
(`Operation.Alike.run`), so whole runs do (`Scene.values_untold`): no value is told, and none
decides what is told.

This holds as long as the two paths of the session do not lead to one file.  If they do, the values
that are saved come back as environments, and how many variables they have is told
(`Scene.values_told_where_shared`).
-/

open Tiered.Action

namespace Tiered

open Files Store

/-- The scenes differ in values only. -/
structure Scene.Alike (s s' : Scene) : Prop where
  disk : DisksAlike s.environmentPath s.session.snapshotPath s.disk s'.disk
  resolvers : List.Forall₂ Resolver.Alike s.resolvers s'.resolvers
  config : s'.session.config = s.session.config
  base : s'.session.base = s.session.base
  current : s'.session.current = s.session.current
  saved : s.session.saved.Alike s'.session.saved

/-- The operations are the same but for the values that they write, which are alike.  Nobody else
touches the disk. -/
inductive Operation.Alike : Operation → Operation → Prop where
  | enter : Alike .enter .enter
  | reset : Alike .reset .reset
  | save : Alike .save .save
  | close : Alike .close .close
  | exit (failing : Bool) : Alike (.exit failing) (.exit failing)
  | render (v : Value) (strict : Bool) : Alike (.render v strict) (.render v strict)
  | ask {q q' : Resolver.Request} (hq : q.Alike q') : Alike (.ask q) (.ask q')
  | askKept (id : Nat) {q q' : Resolver.Request} (hq : q.Alike q') :
    Alike (.askKept id q) (.askKept id q')

theorem alike_getD {rs rs' : List Resolver} (h : List.Forall₂ Resolver.Alike rs rs') (id : Nat) :
    (rs.getD id ⟨[], []⟩).Alike (rs'.getD id ⟨[], []⟩) := by
  induction h generalizing id with
  | nil => exact ⟨.nil, .nil⟩
  | cons hr _ ih =>
      cases id with
      | zero => exact hr
      | succ id => exact ih id

theorem alike_set {rs rs' : List Resolver} (h : List.Forall₂ Resolver.Alike rs rs')
    {r r' : Resolver} (hr : r.Alike r') (id : Nat) :
    List.Forall₂ Resolver.Alike (rs.set id r) (rs'.set id r') := by
  induction h generalizing id with
  | nil => exact .nil
  | cons hfirst hrest ih =>
      cases id with
      | zero => exact .cons hr hrest
      | succ id => exact .cons hfirst (ih id)

namespace Scene

variable {s s' : Scene}

theorem Alike.resolver (h : s.Alike s') (id : Nat) : (s.resolver id).Alike (s'.resolver id) :=
  alike_getD h.resolvers id

theorem Alike.snapshotPath (h : s.Alike s') :
    s'.session.snapshotPath = s.session.snapshotPath :=
  Session.snapshotPath_congr h.config h.base

theorem Alike.envPath (h : s.Alike s') : s'.session.envPath = s.session.envPath :=
  Session.envPath_congr h.config h.base

/-! ### Asking the resolver -/

theorem couples_current : Couples Scene.Alike Eq current current := by
  refine couples_read.bind fun s s' h => ?_
  rw [h.current]
  split
  · exact couples_pure rfl
  · exact couples_fail (.refl _)

section Resolver

variable {α β : Type} {Q : α → β → Prop} {a : Action Resolver α} {a' : Action Resolver β}

theorem couples_onResolver (h : Couples Resolver.Alike Q a a') (id : Nat) :
    Couples Scene.Alike Q (onResolver id a) (onResolver id a') :=
  h.focus (fun _ _ hs => hs.resolver id) fun _ _ _ _ hs hr =>
    { hs with resolvers := alike_set hs.resolvers hr id }

theorem couples_resolving (h : Couples Resolver.Alike Q a a') :
    Couples Scene.Alike Q (resolving a) (resolving a') := by
  refine couples_current.bind ?_
  rintro id _ rfl
  exact couples_onResolver h id

end Resolver

theorem couples_reset : Couples Scene.Alike Eq reset reset := by
  refine couples_current.bind ?_
  rintro id _ rfl
  refine couples_read.bind fun s s' h => couples_onResolver ?_ id
  exact Resolver.couples_restore (.entries _) (.entries _) fun _ _ _ => h.saved

/-! ### Saving and closing -/

theorem couples_save : Couples Scene.Alike Entries.Alike save save := by
  intro s s' h
  cases hc : s.session.current with
  | none =>
      rw [save_of_closed s hc, save_of_closed s' (h.current.trans hc)]
      exact ⟨rfl, h, .error (.refl _)⟩
  | some id =>
      obtain ⟨hevents, hdisk, hresult⟩ := h.disk.saveSnapshot (h.resolver id).overlay
      rw [save_of_open s hc, save_of_open s' (h.current.trans hc), h.snapshotPath]
      revert hresult
      dsimp only
      generalize (saveSnapshot s.session.snapshotPath (s.resolver id).overlay s.disk).result = x
      generalize (saveSnapshot s.session.snapshotPath (s'.resolver id).overlay s'.disk).result = x'
      rintro (hkept | hf)
      · exact ⟨hevents, { h with disk := hdisk, saved := hkept }, .ok hkept⟩
      · exact ⟨hevents, { h with disk := hdisk }, .error hf⟩

theorem couples_saveOnly : Couples Scene.Alike Eq saveOnly saveOnly :=
  couples_save.bind fun _ _ _ => couples_pure rfl

theorem couples_persist : Couples Scene.Alike Eq persist persist := by
  intro s s' h
  rw [persist, persist, h.config]
  split_ifs
  · exact couples_saveOnly s s' h
  · exact ⟨rfl, h, .ok rfl⟩

theorem couples_close : Couples Scene.Alike Eq close close := by
  intro s s' h
  cases hc : s.session.current with
  | none =>
      rw [close_of_closed s hc, close_of_closed s' (h.current.trans hc)]
      exact ⟨rfl, h, .ok rfl⟩
  | some id =>
      obtain ⟨hevents, hstate, hresult⟩ := couples_persist s s' h
      rw [close_of_open s hc, close_of_open s' (h.current.trans hc), hevents, h.config,
        (h.resolver id).overlay.length]
      exact ⟨rfl, { hstate with current := rfl }, hresult⟩

/-- What is told of a closing that fails depends on the failure only where it is to use the snapshot
file, and then it is the same failure. -/
theorem couples_closeOnError : Couples Scene.Alike Eq closeOnError closeOnError := by
  refine couples_close.attempt.bind ?_
  rintro _ _ (_ | @⟨f, f', hf⟩)
  · exact couples_pure rfl
  · split
    · next he => exact absurd he (by simp)
    · next path reason he =>
      obtain rfl := Except.error.inj he
      obtain rfl := (hf path reason).1 rfl
      exact couples_emit _
    · next failure hne he =>
      obtain rfl := Except.error.inj he
      split
      · next he' => exact absurd he' (by simp)
      · next path reason he' =>
        exact absurd ((hf path reason).2 (Except.error.inj he')) (hne path reason)
      · next he' =>
        obtain rfl := Except.error.inj he'
        exact couples_fail hf

theorem couples_exit (failing : Bool) : Couples Scene.Alike Eq (exit failing) (exit failing) := by
  rw [exit, exitWith]
  split_ifs
  · exact couples_closeOnError
  · exact couples_close

/-! ### Opening -/

/-- Opening tells the same, as long as the two files are not one. -/
theorem Alike.enter (h : s.Alike s')
    (hapart : Apart s.environmentPath s.session.snapshotPath (enter s).state.disk) :
    (Scene.enter s).Alike Scene.Alike Eq (Scene.enter s') := by
  rw [disk_enter] at hapart
  have hbefore : Apart s.environmentPath s.session.snapshotPath s.disk :=
    hapart.of_grows (loadEnvironment_grows _ _ _ _)
  have henvironment : s.environmentOutcome.Alike
      (DisksAlike s.environmentPath s.session.snapshotPath) Entries.Alike
      s'.environmentOutcome := by
    rw [environmentOutcome, environmentOutcome, h.config, h.envPath]
    exact h.disk.loadEnvironment hbefore _ _
  have hsnapshot : s.snapshotOutcome.Alike
      (DisksAlike s.environmentPath s.session.snapshotPath) Entries.Alike s'.snapshotOutcome := by
    rw [snapshotOutcome, snapshotOutcome, h.snapshotPath]
    exact henvironment.state.loadSnapshot hapart
  obtain ⟨hevents, hdisk, hresult⟩ := henvironment
  obtain ⟨hevents', hdisk', hresult'⟩ := hsnapshot
  rw [enter_eq, enter_eq, hevents, hevents', h.config]
  revert hresult hresult'
  generalize s.environmentOutcome.result = x
  generalize s'.environmentOutcome.result = x'
  generalize s.snapshotOutcome.result = y
  generalize s'.snapshotOutcome.result = y'
  rintro (@⟨environment, environment', he⟩ | hf) hresult'
  · rcases hresult' with @⟨saved, saved', hs⟩ | hf
    · have hresolvers := List.rel_append h.resolvers
        (.cons (⟨hs, he⟩ : Resolver.Alike ⟨saved, environment⟩ ⟨saved', environment'⟩) .nil)
      dsimp only
      rw [he.length, hs.length, h.resolvers.length_eq]
      exact ⟨rfl, ⟨hdisk', hresolvers, h.config, h.base, rfl, hs⟩, .ok rfl⟩
    · exact ⟨rfl, { h with disk := hdisk' }, .error hf⟩
  · exact ⟨rfl, { h with disk := hdisk }, .error hf⟩

end Scene

/-! ### Every operation -/

/-- **Alike operations on alike scenes tell the same and leave alike scenes**, as long as the two
files of the session are not one. -/
theorem Operation.Alike.run {o o' : Operation} (ho : o.Alike o') {s s' : Scene} (h : s.Alike s')
    (hapart : Apart s.environmentPath s.session.snapshotPath (o.run s).state.disk) :
    (o.run s).Alike Scene.Alike (fun _ _ => True) (o'.run s') := by
  cases ho with
  | enter =>
      rw [Operation.run, Action.bind_pure_apply] at hapart
      dsimp only at hapart
      exact alike_bind_pure (h.enter hapart) fun _ _ _ => trivial
  | reset => exact alike_bind_pure (Scene.couples_reset s s' h) fun _ _ _ => trivial
  | save => exact alike_bind_pure (Scene.couples_save s s' h) fun _ _ _ => trivial
  | close => exact alike_bind_pure (Scene.couples_close s s' h) fun _ _ _ => trivial
  | exit failing => exact alike_bind_pure (Scene.couples_exit failing s s' h) fun _ _ _ => trivial
  | render v strict =>
      have hrender := Scene.couples_resolving (Template.couples_render v strict)
      exact alike_bind_pure (hrender s s' h) fun _ _ _ => trivial
  | ask hq => exact Scene.couples_resolving hq.couples s s' h
  | askKept id hq => exact Scene.couples_onResolver hq.couples id s s' h

/-! ### A run -/

namespace Scene

variable {s s' : Scene}

/-- A session in the folder `/w`, whose snapshot file `s` has a content. -/
def filed (envFile : Text) (content : Text.Utf8.Octets) : Scene where
  disk := (Disk.bare [[0x77]]).put [[0x77], [0x73]] (.file content)
  resolvers := []
  session := .new { Config.default with envFile, snapshotFile := "s" } ⟨[slash], [[0x77]]⟩

/-- The text of a table with a number of one digit. -/
def numbered (digit : UInt8) : Text.Utf8.Octets := [0x7B, 0x22, 0x6B, 0x22, 0x3A, digit, 0x7D]

end Scene

end Tiered
