import Mathlib
import Tiered.Proofs.Agree
import Tiered.Proofs.Session.Asked
import Tiered.Proofs.Session.Handle
import Tiered.Proofs.Store.Durability
import Tiered.Session.Layout

/-!
# Layout — the session in memory is the session

As long as the reset point and the tables of the resolvers own their values (`Layout.Owned`), each
operation on a session in memory says and tells what it says and tells on the scene that is laid
out, leaves that scene laid out, and leaves owners (`Layout.Mirrors`).  That they own their values
is what the copies are for: opening, resetting and saving give the overlay and the reset point
values of their own (`mirrors_enter`, `mirrors_reset`, `mirrors_save`).
-/

open Tiered.Action

namespace Tiered

open Files
open Bindings (numbers)

namespace Layout

/-- The parts of a session in memory that have a table. -/
inductive Part where
  | saved
  | overlay (id : Nat)
  | environment (id : Nat)
  deriving DecidableEq

/-- The table of a part. -/
def table? (l : Layout) : Part → Option Nat
  | .saved => some l.saved
  | .overlay id => l.resolvers[id]?.map Handle.overlay
  | .environment id => l.resolvers[id]?.map Handle.environment

/-- The parts own their values, and the session's resolver is one that was made. -/
structure Owned (l : Layout) : Prop where
  memory : l.memory.Owned l.table?
  made : ∀ id, l.current = some id → id < l.resolvers.length

variable {l : Layout} {m' : Memory} {id : Nat} {x : Handle}

theorem table?_overlay (hx : l.resolvers[id]? = some x) :
    l.table? (.overlay id) = some x.overlay := by
  rw [table?, hx, Option.map_some]

theorem table?_environment (hx : l.resolvers[id]? = some x) :
    l.table? (.environment id) = some x.environment := by
  rw [table?, hx, Option.map_some]

/-- A session is closed, or has a resolver that was made. -/
theorem Owned.current_cases (h : l.Owned) :
    l.current = none ∨ ∃ id x, l.current = some id ∧ l.resolvers[id]? = some x := by
  cases hc : l.current with
  | none => exact .inl rfl
  | some id => exact .inr ⟨id, _, rfl, List.getElem?_eq_getElem (h.made id hc)⟩

theorem handle_of_closed (h : l.current = none) : handle l = ⟨.error .sessionNotOpen, l, []⟩ := by
  simp only [handle, bind_apply, read_apply, h]
  rfl

theorem handle_of_open (h : l.current = some id) (hx : l.resolvers[id]? = some x) :
    handle l = ⟨.ok x, l, []⟩ := by
  simp only [handle, bind_apply, read_apply, h, Option.bind_some, hx]
  rfl

theorem resolver_scene (hx : l.resolvers[id]? = some x) :
    l.scene.resolver id = l.memory.resolver x := by
  simp [scene, Scene.resolver, hx]

/-! ### The scene in a memory that changed -/

/-- What makes tables and values shows nothing of it. -/
theorem scene_extends (h : l.Owned) (hm : l.memory.Extends m') (disk : Disk) :
    ({ l with disk, memory := m' } : Layout).scene = { l.scene with disk } ∧
      ({ l with disk, memory := m' } : Layout).Owned := by
  refine ⟨?_, ⟨h.memory.extending hm, h.made⟩⟩
  have hentries : ∀ {i t}, l.table? i = some t → m'.entries t = l.memory.entries t :=
    fun hi => h.memory.entries_extends hm hi
  have hresolvers : l.resolvers.map m'.resolver = l.resolvers.map l.memory.resolver := by
    refine List.map_congr_left fun y hy => ?_
    obtain ⟨i, hi⟩ := List.mem_iff_getElem?.1 hy
    rw [Memory.resolver, Memory.resolver, hentries (table?_overlay hi),
      hentries (table?_environment hi)]
  rw [scene, scene, session, session, hresolvers, hentries (i := .saved) rfl]

/-- What is changed at a table of a resolver is seen in that resolver only. -/
theorem scene_changesAt (h : l.Owned) (hx : l.resolvers[id]? = some x) {part : Part} {t : Nat}
    (hpart : part = .overlay id ∨ part = .environment id) (ht : l.table? part = some t)
    (hc : l.memory.ChangesAt t m') :
    ({ l with memory := m' } : Layout).scene = l.scene.replaced id (m'.resolver x) ∧
      ({ l with memory := m' } : Layout).Owned := by
  obtain ⟨howned, hentries⟩ := h.memory.changesAt ht hc
  refine ⟨?_, howned, h.made⟩
  have hresolvers : l.resolvers.map m'.resolver =
      (l.resolvers.map l.memory.resolver).set id (m'.resolver x) := by
    refine List.ext_getElem? fun i => ?_
    rw [List.getElem?_map, List.getElem?_set, List.length_map, List.getElem?_map]
    by_cases hi : id = i
    · subst hi
      rw [if_pos rfl, if_pos (List.getElem?_eq_some_iff.1 hx).1, hx, Option.map_some]
    · rw [if_neg hi]
      refine Option.map_congr fun y hy => ?_
      have hother : ∀ {other u}, other = .overlay i ∨ other = .environment i →
          l.table? other = some u → m'.entries u = l.memory.entries u := by
        intro other u hother hu
        refine hentries hu fun he => ?_
        rcases hother with rfl | rfl <;> rcases hpart with rfl | rfl <;> simp_all
      rw [Memory.resolver, Memory.resolver, hother (.inl rfl) (table?_overlay hy),
        hother (.inr rfl) (table?_environment hy)]
  have hsaved : m'.entries l.saved = l.memory.entries l.saved := by
    refine hentries (j := .saved) rfl fun he => ?_
    rcases hpart with rfl | rfl <;> simp at he
  rw [scene, session, hresolvers, hsaved]
  rfl

/-! ### Outcomes that mirror each other -/

/-- In memory something comes to what it comes to on the scene that is laid out. -/
structure Mirrors {α β : Type} (Q : Layout → α → β → Prop) (o : Outcome Layout α)
    (o' : Outcome Scene β) : Prop where
  result : Agree Eq (Q o.state) o.result o'.result
  events : o.events = o'.events
  scene : o.state.scene = o'.state
  owned : o.state.Owned

/-- The two give the same. -/
def Same {α : Type} (_ : Layout) (v w : α) : Prop := v = w

/-- The table stands for the entries. -/
def Stands (l : Layout) (t : Nat) (es : Entries) : Prop := l.memory.entries t = es

section Mirrors

variable {α β γ δ : Type} {Q : Layout → α → β → Prop} {P : Layout → γ → δ → Prop}

/-- **What mirrors goes on with what mirrors.** -/
theorem Mirrors.bind {a : Action Layout α} {a' : Action Scene β} {f : α → Action Layout γ}
    {f' : β → Action Scene δ} {s : Scene} (h : Mirrors Q (a l) (a' s))
    (hf : ∀ k v w, k.Owned → Q k v w → Mirrors P (f v k) (f' w k.scene)) :
    Mirrors P ((a >>= f) l) ((a' >>= f') s) := by
  obtain ⟨hresult, hevents, hscene, howned⟩ := h
  rw [bind_apply, bind_apply]
  revert hresult
  generalize (a l).result = r
  generalize (a' s).result = r'
  rintro (hQ | he)
  · have hnext := hf _ _ _ howned hQ
    rw [hscene] at hnext
    exact ⟨hnext.result, congrArg₂ _ hevents hnext.events, hnext.scene, hnext.owned⟩
  · exact ⟨.error he, hevents, hscene, howned⟩

theorem mirrors_pure (h : l.Owned) {v : α} {w : β} (hQ : Q l v w) :
    Mirrors Q ((pure v : Action Layout α) l) ((pure w : Action Scene β) l.scene) :=
  ⟨.ok hQ, rfl, rfl, h⟩

theorem mirrors_emit (h : l.Owned) (event : Log.Event) :
    Mirrors Same ((emit event : Action Layout Unit) l) ((emit event : Action Scene Unit) l.scene) :=
  ⟨.ok rfl, rfl, rfl, h⟩

theorem mirrors_fail (h : l.Owned) (failure : Failure) :
    Mirrors Q ((fail failure : Action Layout α) l) ((fail failure : Action Scene β) l.scene) :=
  ⟨.error rfl, rfl, rfl, h⟩

theorem mirrors_lift (h : l.Owned) {r : Except Failure α} {r' : Except Failure β}
    (hr : Agree Eq (Q l) r r') :
    Mirrors Q ((lift r : Action Layout α) l) ((lift r' : Action Scene β) l.scene) :=
  ⟨hr, rfl, rfl, h⟩

theorem Mirrors.attempt {a : Action Layout α} {a' : Action Scene β} {s : Scene}
    (h : Mirrors Q (a l) (a' s)) :
    Mirrors (fun k => Agree Eq (Q k)) (Action.attempt a l) (Action.attempt a' s) :=
  ⟨.ok h.result, h.events, h.scene, h.owned⟩

theorem read_bind {σ : Type} (f : σ → Action σ α) (s : σ) : (read >>= f) s = f s s := rfl

end Mirrors

/-! ### Requests -/

/-- A request to a resolver in memory is one to the resolver that is laid out. -/
theorem mirrors_request (h : l.Owned) (hx : l.resolvers[id]? = some x) (q : Resolver.Request) :
    Mirrors Same (onMemory (q.runIn x) l) (Scene.onResolver id q.run l.scene) := by
  obtain ⟨part, t, hpart, ht, hdoes⟩ := q.does_runIn h.memory (table?_overlay hx)
    (table?_environment hx) (by simp)
  rw [← resolver_scene hx] at hdoes
  obtain ⟨hscene, howned⟩ := scene_changesAt h hx hpart ht hdoes.changes
  refine ⟨?_, hdoes.events, hscene.trans ?_, howned⟩
  · have hresult : (onMemory (q.runIn x) l).result = (Scene.onResolver id q.run l.scene).result :=
      hdoes.result
    rw [hresult]
    exact Agree.refl (fun _ => rfl) fun _ _ => rfl
  · rw [hdoes.state]
    rfl

/-! ### Another reset point -/

theorem onMemory_apply {α : Type} (a : Action Memory α) (l : Layout) :
    onMemory a l =
      ⟨(a l.memory).result, { l with memory := (a l.memory).state }, (a l.memory).events⟩ := rfl

/-- The session in memory with a reset point that was made. -/
def resaved (l : Layout) (disk : Disk) (m : Memory) (saved : Entries) : Layout :=
  { l with disk, memory := m.made saved, saved := m.tables.length }

/-- The parts of a session with a new reset point, among that and the parts that were there. -/
def resavedPart : Part → Option Part
  | .saved => none
  | part => some part

theorem injective_resavedPart : Function.Injective resavedPart := by
  intro part part'
  cases part <;> cases part' <;> simp [resavedPart]

theorem owned_resaved (h : l.Owned) (hm : l.memory.Extends m') (disk : Disk) (saved : Entries) :
    (l.resaved disk m' saved).Owned := by
  have howned := (h.memory.extending hm).withMade saved
  refine ⟨howned.comap _ injective_resavedPart fun part t ht => ?_, h.made⟩
  cases part <;> exact ht

theorem scene_resaved (h : l.Owned) (hm : l.memory.Extends m') (disk : Disk) (saved : Entries) :
    (l.resaved disk m' saved).scene = ⟨disk, l.scene.resolvers, { l.session with saved }⟩ := by
  have hscene := (scene_extends h (hm.trans (Memory.extends_made m' saved)) disk).1
  have hresolvers := congrArg Scene.resolvers hscene
  simp only [scene] at hresolvers
  simp only [resaved, scene, session, Memory.entries_made, hresolvers]

/-! ### Opening -/

/-- The session in memory that an opening leaves: of two tables that were made one behind the other
the first is the environment and the second the reset point, and the overlay is a third. -/
def opened (l : Layout) (disk : Disk) (environment saved overlay : Entries) : Layout :=
  let m := (l.memory.made environment).made saved
  { l with
    disk
    memory := m.made overlay
    resolvers := l.resolvers ++ [⟨m.tables.length, l.memory.tables.length⟩]
    current := some l.resolvers.length
    saved := (l.memory.made environment).tables.length }

/-- The part of an opened session among what was made last and the parts that were there: the
tables of its resolver and the reset point were made, and the other parts are as they were. -/
def openedPart (id : Nat) : Part → Option (Option (Option Part))
  | .saved => some none
  | .overlay i => if i = id then none else some (some (some (.overlay i)))
  | .environment i => if i = id then some (some none) else some (some (some (.environment i)))

theorem injective_openedPart (id : Nat) : Function.Injective (openedPart id) := by
  intro part part'
  cases part <;> cases part' <;> simp only [openedPart] <;> (try split_ifs) <;> simp_all

/-- What was made belongs to different parts, and owns its values. -/
theorem owned_opened (h : l.Owned) (disk : Disk) (environment saved overlay : Entries) :
    (l.opened disk environment saved overlay).Owned := by
  have howned := ((h.memory.withMade environment).withMade saved).withMade overlay
  refine ⟨howned.comap _ (injective_openedPart l.resolvers.length) fun part t ht => ?_, ?_⟩
  · have htiers : ∀ {i : Nat} {y : Handle}, (l.resolvers ++ [y])[i]? =
        if i = l.resolvers.length then some y else l.resolvers[i]? := by
      intro i y
      rw [List.getElem?_append, List.getElem?_singleton]
      split_ifs <;> first | omega | simp_all
    cases part with
    | saved => exact ht
    | overlay i =>
        simp only [opened, table?, htiers] at ht
        rw [openedPart]
        split_ifs at ht ⊢ with hi
        · exact ht
        · exact ht
    | environment i =>
        simp only [opened, table?, htiers] at ht
        rw [openedPart]
        split_ifs at ht ⊢ with hi
        · exact ht
        · exact ht
  · intro id hid
    obtain rfl := Option.some.inj hid
    simp [opened]

theorem scene_opened (h : l.Owned) (disk : Disk) (environment saved overlay : Entries) :
    (l.opened disk environment saved overlay).scene =
      ⟨disk, l.scene.resolvers ++ [⟨overlay, environment⟩],
        { l.session with saved, current := some l.scene.resolvers.length }⟩ := by
  have hfirst := h.memory.withMade environment
  have hsecond := hfirst.withMade saved
  have hextends := (Memory.extends_made (l.memory.made environment) saved).trans
    (Memory.extends_made _ overlay)
  have henvironment : (((l.memory.made environment).made saved).made overlay).entries
      l.memory.tables.length = environment :=
    (hfirst.entries_extends hextends (i := none) rfl).trans (Memory.entries_made _ _)
  have hsaved : (((l.memory.made environment).made saved).made overlay).entries
      (l.memory.made environment).tables.length = saved :=
    (hsecond.entries_extends (Memory.extends_made _ overlay) (i := none) rfl).trans
      (Memory.entries_made _ _)
  have hold : ∀ y ∈ l.resolvers, (((l.memory.made environment).made saved).made overlay).resolver y
      = l.memory.resolver y := by
    intro y hy
    obtain ⟨i, hi⟩ := List.mem_iff_getElem?.1 hy
    have hm := (Memory.extends_made l.memory environment).trans hextends
    rw [Memory.resolver, Memory.resolver, h.memory.entries_extends hm (table?_overlay hi),
      h.memory.entries_extends hm (table?_environment hi)]
  simp only [opened, scene, session, List.map_append, List.map_cons, List.map_nil, Memory.resolver,
    Memory.entries_made, henvironment, hsaved, List.length_map]
  rw [← List.map_congr_left hold]

section Copying

variable (copy : Entries → Except Failure Entries)

/-- What opening comes to in memory. -/
theorem enterWith_eq (l : Layout) :
    enterWith copy l =
      let first := l.scene.environmentOutcome
      let second := l.scene.snapshotOutcome
      match first.result with
      | .error failure => ⟨.error failure, { l with disk := first.state }, first.events⟩
      | .ok environment => match second.result with
        | .error failure =>
          ⟨.error failure, { l with disk := second.state, memory := l.memory.made environment },
            first.events ++ second.events⟩
        | .ok saved => match copy saved with
          | .error failure =>
            ⟨.error failure, { l with
                disk := second.state
                memory := (l.memory.made environment).made saved
                saved := (l.memory.made environment).tables.length },
              first.events ++ second.events⟩
          | .ok overlay => ⟨.ok (), l.opened second.state environment saved overlay,
              first.events ++ (second.events ++
                [.sessionOpened l.config.envName environment.length saved.length])⟩ := by
  simp only [enterWith, bind_apply, read_apply, onDisk, Action.focus, setSaved, modify_apply,
    install, emit_apply, List.nil_append, Scene.environmentOutcome, Scene.snapshotOutcome, scene]
  rcases Store.loadEnvironment l.session.envPath.text (.text l.session.config.envName)
    l.session.config.createMissing l.disk with ⟨_ | environment, disk, events⟩
  · rfl
  · simp only [onMemory_apply, Memory.make_apply, List.nil_append]
    rcases Store.loadSnapshot l.session.snapshotPath disk with ⟨_ | saved, disk, events⟩
    · rfl
    · simp only [Memory.deepCopy_apply, Memory.entries_made]
      cases copy saved with
      | error failure => simp
      | ok overlay => rfl

/-- **Opening in memory is opening.** -/
theorem mirrors_enter (h : l.Owned) :
    Mirrors Same (enterWith copy l) (Scene.enterWith copy l.scene) := by
  rw [enterWith_eq, Scene.enterWith_eq]
  dsimp only
  cases (Scene.environmentOutcome l.scene).result with
  | error failure => exact ⟨.error rfl, rfl, rfl, h.memory, h.made⟩
  | ok environment =>
      cases (Scene.snapshotOutcome l.scene).result with
      | error failure =>
          obtain ⟨hscene, howned⟩ := scene_extends h (l.memory.extends_made environment)
            (Scene.snapshotOutcome l.scene).state
          exact ⟨.error rfl, rfl, hscene, howned⟩
      | ok saved =>
          dsimp only
          cases copy saved with
          | error failure =>
              have hm := l.memory.extends_made environment
              exact ⟨.error rfl, rfl, scene_resaved h hm _ saved, owned_resaved h hm _ saved⟩
          | ok overlay =>
              exact ⟨.ok rfl, rfl, scene_opened h _ environment saved overlay,
              owned_opened h _ environment saved overlay⟩

/-! ### Resetting and saving -/

/-- **Resetting in memory is resetting.** -/
theorem mirrors_reset (h : l.Owned) :
    Mirrors Same (resetWith copy l) (Scene.resetWith copy l.scene) := by
  rcases h.current_cases with hc | ⟨id, x, hc, hx⟩
  · have hclosed : Scene.resetWith copy l.scene = ⟨.error .sessionNotOpen, l.scene, []⟩ := by
      simp only [Scene.resetWith, bind_apply, Scene.current_of_closed l.scene hc]
    rw [resetWith, bind_apply_of_error l (handle_of_closed hc), hclosed]
    exact ⟨.error rfl, rfl, rfl, h⟩
  · rw [resetWith, bind_apply_of_ok l (handle_of_open hc hx),
      Scene.resetWith_of_open copy l.scene hc]
    simp only [bind_apply, read_apply, onMemory_apply, Memory.deepCopy_apply, List.nil_append]
    have hsaved : l.scene.session.saved = l.memory.entries l.saved := rfl
    rw [hsaved]
    cases copy (l.memory.entries l.saved) with
    | error failure => exact ⟨.error rfl, rfl, rfl, h⟩
    | ok saved =>
        have hdoes := Memory.does_restore_made h.memory (table?_overlay hx)
          (table?_environment hx) (by simp) saved
        obtain ⟨hscene, howned⟩ := scene_changesAt h hx (.inl rfl) (table?_overlay hx) hdoes.changes
        rw [hdoes.state, ← resolver_scene hx] at hscene
        refine ⟨?_, hdoes.events, hscene, howned⟩
        exact hdoes.result ▸ .ok rfl

/-- The memory behind saving what a table holds, but for the new reset point: a table of the same
values, and one of those among them that a file can keep. -/
def savedMemory (m : Memory) (t : Nat) : Memory :=
  (m.withMore (m.table t)).withMore ((m.table t).filter fun b => (m.value b.2).serializable)

theorem extends_savedMemory (m : Memory) (t : Nat) : m.Extends (savedMemory m t) :=
  (m.extends_withMore _).trans (Memory.extends_withMore _ _)

theorem table_savedMemory (m : Memory) (t : Nat) :
    (savedMemory m t).table (m.tables.length + 1) =
      (m.table t).filter fun b => (m.value b.2).serializable := by
  have hlength : (m.withMore (m.table t)).tables.length = m.tables.length + 1 :=
    List.length_append
  rw [← hlength, savedMemory, Memory.table_withMore]

/-- The last table that was made holds what a file can keep. -/
theorem entries_savedMemory (m : Memory) (t : Nat) :
    (savedMemory m t).entries (m.tables.length + 1) = (m.entries t).keep := by
  rw [Memory.entries, table_savedMemory]
  exact Memory.entriesOf_filter m _

/-- It holds them while others are made. -/
theorem entries_extends_savedMemory {m : Memory} {t : Nat}
    (hinside : ∀ n ∈ numbers (m.table t), n < m.values.length) (hm : (savedMemory m t).Extends m') :
    m'.entries (m.tables.length + 1) = (m.entries t).keep := by
  rw [← entries_savedMemory]
  refine hm.entries (by simp [savedMemory, Memory.withMore]) fun n hn => ?_
  rw [table_savedMemory] at hn
  obtain ⟨b, hb, rfl⟩ := List.mem_map.1 hn
  exact hinside b.2 (List.mem_map_of_mem (List.mem_of_mem_filter hb))

/-- What saving in memory comes to. -/
theorem saveWith_of_open (hc : l.current = some id) (hx : l.resolvers[id]? = some x) :
    saveWith copy l =
      let m := savedMemory l.memory x.overlay
      let o := Store.saveSnapshot l.session.snapshotPath (l.memory.entries x.overlay) l.disk
      match o.result with
      | .error failure => ⟨.error failure,
          { l with disk := o.state, memory := l.memory.withMore (l.memory.table x.overlay) },
          o.events⟩
      | .ok _ => match copy (l.memory.entries x.overlay).keep with
        | .error failure => ⟨.error failure, { l with disk := o.state, memory := m }, o.events⟩
        | .ok saved => ⟨.ok (l.memory.tables.length + 1), l.resaved o.state m saved, o.events⟩ := by
  have hoverlay : (l.memory.withMore (l.memory.table x.overlay)).entries l.memory.tables.length =
      l.memory.entries x.overlay := Memory.entries_withMore _ _
  have hkept := entries_savedMemory l.memory x.overlay
  have hkeep : Memory.keepSerializable l.memory.tables.length
      (l.memory.withMore (l.memory.table x.overlay)) =
        ⟨.ok (l.memory.tables.length + 1), savedMemory l.memory x.overlay, []⟩ := by
    rw [Memory.keepSerializable_apply, Memory.table_withMore]
    exact congrArg (fun n => Outcome.mk (.ok n) _ _) (List.length_append)
  have hpath : ({ l with memory := l.memory.withMore (l.memory.table x.overlay) } :
      Layout).session.snapshotPath = l.session.snapshotPath := rfl
  rw [saveWith, bind_apply_of_ok l (handle_of_open hc hx)]
  simp only [bind_apply, onMemory_apply, Memory.copyTable_apply, saveSnapshot, read_apply, onDisk,
    Action.focus, List.nil_append, hoverlay, hpath]
  rcases Store.saveSnapshot l.session.snapshotPath (l.memory.entries x.overlay) l.disk with
    ⟨_ | kept, disk, events⟩
  · rfl
  · simp only [hkeep, List.append_nil, Memory.deepCopy_apply, hkept]
    cases copy (l.memory.entries x.overlay).keep with
    | error failure => simp
    | ok saved => simp [setSaved, resaved]

/-- **Saving in memory is saving**, and gives a table of what was saved. -/
theorem mirrors_save (h : l.Owned) :
    Mirrors Stands (saveWith copy l) (Scene.saveWith copy l.scene) := by
  rcases h.current_cases with hc | ⟨id, x, hc, hx⟩
  · have hclosed : Scene.saveWith copy l.scene = ⟨.error .sessionNotOpen, l.scene, []⟩ := by
      simp only [Scene.saveWith, bind_apply, Scene.current_of_closed l.scene hc]
    rw [saveWith, bind_apply_of_error l (handle_of_closed hc), hclosed]
    exact ⟨.error rfl, rfl, rfl, h⟩
  · have hoverlay : (l.scene.resolver id).overlay = l.memory.entries x.overlay :=
      congrArg Resolver.overlay (resolver_scene hx)
    have hm := extends_savedMemory l.memory x.overlay
    rw [saveWith_of_open copy hc hx, Scene.saveWith_of_open copy l.scene hc, hoverlay]
    dsimp only
    have hpath : l.scene.session.snapshotPath = l.session.snapshotPath := rfl
    have hdisk : l.scene.disk = l.disk := rfl
    rw [hpath, hdisk]
    cases ho : (Store.saveSnapshot l.session.snapshotPath (l.memory.entries x.overlay)
      l.disk).result with
    | error failure =>
        have hcopied := l.memory.extends_withMore (l.memory.table x.overlay)
        obtain ⟨hscene, howned⟩ := scene_extends h hcopied _
        exact ⟨.error rfl, rfl, hscene, howned⟩
    | ok kept =>
        obtain rfl := (Store.written_of_saved ho).1
        dsimp only
        cases copy (l.memory.entries x.overlay).keep with
        | error failure =>
            obtain ⟨hscene, howned⟩ := scene_extends h hm _
            exact ⟨.error rfl, rfl, hscene, howned⟩
        | ok saved =>
            refine ⟨.ok ?_, rfl, scene_resaved h hm _ saved, owned_resaved h hm _ saved⟩
            exact entries_extends_savedMemory (h.memory.inside (table?_overlay hx))
              (Memory.extends_made _ saved)

/-! ### Closing -/

theorem mirrors_saveOnly (h : l.Owned) :
    Mirrors Same (saveOnlyWith copy l) (Scene.saveOnlyWith copy l.scene) :=
  (mirrors_save copy h).bind fun _ _ _ hk _ => mirrors_pure hk rfl

theorem mirrors_release (h : l.Owned) : Mirrors Same (release l) (Scene.release l.scene) :=
  ⟨.ok rfl, rfl, rfl, h.memory, fun _ hid => absurd hid.symm (Option.some_ne_none _)⟩

/-- **Closing in memory is closing.** -/
theorem mirrors_close (h : l.Owned) :
    Mirrors Same (closeWith copy l) (Scene.closeWith copy l.scene) := by
  rcases h.current_cases with hc | ⟨id, x, hc, hx⟩
  · have hmemory : closeWith copy l = ⟨.ok (), l, []⟩ := by
      simp only [closeWith, bind_apply, read_apply, hc]
      rfl
    have hscene : Scene.closeWith copy l.scene = ⟨.ok (), l.scene, []⟩ := by
      have hclosed : l.scene.session.current = none := hc
      simp only [Scene.closeWith, bind_apply, read_apply, hclosed]
      rfl
    rw [hmemory, hscene]
    exact ⟨.ok rfl, rfl, rfl, h⟩
  · have hopen : l.scene.session.current = some id := hc
    have hlength : (l.scene.resolver id).overlay.length = (l.memory.table x.overlay).length := by
      rw [resolver_scene hx]
      exact List.length_map _
    have hconfig : l.scene.session.config = l.config := rfl
    rw [closeWith, Scene.closeWith, read_bind, read_bind, hc, Option.bind_some, hx, hopen]
    dsimp only
    rw [hlength, hconfig]
    have hpersist : Mirrors Same
        ((if l.config.persistSnapshot then saveOnlyWith copy else pure ()) l)
        ((if l.config.persistSnapshot then Scene.saveOnlyWith copy else pure ()) l.scene) := by
      split_ifs
      · exact mirrors_saveOnly copy h
      · exact mirrors_pure h rfl
    exact hpersist.attempt.bind fun k outcome outcome' hk hresult =>
      (mirrors_release hk).bind fun _ _ _ hk _ =>
        (mirrors_emit hk _).bind fun _ _ _ hk _ => mirrors_lift hk hresult

/-- **Closing in memory with an error on its way is closing so.** -/
theorem mirrors_closeOnError (h : l.Owned) :
    Mirrors Same (closeOnErrorWith copy l) (Scene.closeOnErrorWith copy l.scene) := by
  refine (mirrors_close copy h).attempt.bind fun k outcome outcome' hk hresult => ?_
  cases hresult with
  | ok hsame => exact mirrors_pure hk rfl
  | @error failure failure' he =>
      subst he
      cases failure with
      | snapshotFile path reason => exact mirrors_emit hk _
      | _ => exact mirrors_fail hk _

end Copying

/-- Rendering reads the resolver only. -/
theorem mirrors_render (h : l.Owned) (v : Value) (strict : Bool) :
    Mirrors Same (render v strict l) (Scene.render v strict l.scene) := by
  rw [Scene.render]
  rcases h.current_cases with hc | ⟨id, x, hc, hx⟩
  · rw [render, bind_apply_of_error l (handle_of_closed hc), Scene.resolving_of_closed l.scene _ hc]
    exact ⟨.error rfl, rfl, rfl, h⟩
  · rw [render, bind_apply_of_ok l (handle_of_open hc hx), Scene.resolving_of_open l.scene _ hc,
      Template.render_state, resolver_scene hx]
    refine ⟨Agree.refl (fun _ => rfl) fun _ _ => rfl, rfl, ?_, h⟩
    exact (Scene.replaced_self l.scene id).symm.trans (by rw [resolver_scene hx]; rfl)

end Layout

/-! ### Runs -/

open Layout

/-- What an operation does to a session in memory. -/
def Operation.act : Operation → Action Layout Resolver.Answer
  | enter => do
    Layout.enterWith .ok
    return .done
  | reset => do
    Layout.resetWith .ok
    return .done
  | save => do
    let kept ← Layout.saveWith .ok
    return .entries ((← Action.read).memory.entries kept)
  | close => do
    Layout.closeWith .ok
    return .done
  | exit failing => do
    Layout.exitWith .ok failing
    return .done
  | render v strict => do return .value (← Layout.render v strict)
  | ask request => do
    let x ← Layout.handle
    Layout.onMemory (request.runIn x)
  | askKept id request => do
    match (← Action.read).resolvers[id]? with
    | some x => Layout.onMemory (request.runIn x)
    -- one that was never made is empty, and nothing becomes of it
    | none => Action.focus (fun _ => ⟨[], []⟩) (fun _ l => l) request.run
  | disturb disk => do
    Action.modify fun l => { l with disk }
    return .done

/-- A resolver that was never made answers as an empty one, and nothing comes of it. -/
theorem Scene.onResolver_unmade {α : Type} {s : Scene} {id : Nat} (h : s.resolvers.length ≤ id)
    (a : Action Resolver α) :
    Scene.onResolver id a s = ⟨(a ⟨[], []⟩).result, s, (a ⟨[], []⟩).events⟩ := by
  rw [Scene.onResolver, Action.focus, Scene.resolver, List.getD_eq_default _ _ h]
  exact congrArg (fun rs => Outcome.mk _ ({ s with resolvers := rs } : Scene) _)
    (List.set_eq_of_length_le h)

/-- **What is done with a session in memory is what is done with the session.** -/
theorem Operation.mirrors_act {l : Layout} (h : l.Owned) (o : Operation) :
    Mirrors Same (o.act l) (o.run l.scene) := by
  have hdone : ∀ {k : Layout}, k.Owned → Mirrors Same
      ((pure .done : Action Layout Resolver.Answer) k) ((pure .done : Action Scene _) k.scene) :=
    fun hk => mirrors_pure hk rfl
  cases o with
  | enter => exact (mirrors_enter .ok h).bind fun _ _ _ hk _ => hdone hk
  | reset => exact (mirrors_reset .ok h).bind fun _ _ _ hk _ => hdone hk
  | save =>
      refine (mirrors_save .ok h).bind fun k t es hk hstands => ?_
      have hes : k.memory.entries t = es := hstands
      rw [read_bind, hes]
      exact mirrors_pure hk rfl
  | close => exact (mirrors_close .ok h).bind fun _ _ _ hk _ => hdone hk
  | exit failing =>
      refine Mirrors.bind (Q := Same) ?_ fun _ _ _ hk _ => hdone hk
      cases failing with
      | true => exact mirrors_closeOnError .ok h
      | false => exact mirrors_close .ok h
  | render v strict =>
      exact (mirrors_render h v strict).bind fun _ v w hk hsame =>
        mirrors_pure hk (congrArg Resolver.Answer.value hsame)
  | ask request =>
      rw [act, run]
      rcases h.current_cases with hc | ⟨id, x, hc, hx⟩
      · rw [bind_apply_of_error l (handle_of_closed hc), Scene.resolving_of_closed l.scene _ hc]
        exact ⟨.error rfl, rfl, rfl, h⟩
      · rw [bind_apply_of_ok l (handle_of_open hc hx), Scene.resolving_of_open l.scene _ hc]
        exact mirrors_request h hx request
  | askKept id request =>
      rw [act, run, read_bind]
      cases hx : l.resolvers[id]? with
      | some x => exact mirrors_request h hx request
      | none =>
          have hlength : l.scene.resolvers.length ≤ id :=
            (List.length_map _).trans_le (List.getElem?_eq_none_iff.1 hx)
          rw [Scene.onResolver_unmade hlength]
          exact ⟨Agree.refl (fun _ => rfl) fun _ _ => rfl, rfl, rfl, h⟩
  | disturb disk =>
      exact ⟨.ok rfl, rfl, rfl, h.memory, h.made⟩

end Tiered
