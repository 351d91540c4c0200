import Mathlib
import Tiered.Proofs.Session.Memory

/-!
# Handle — a resolver in memory

A resolver whose two tables are among the owners does in memory what it does to its entries: it says
the same and tells the same, its tables stand for the entries that it would leave, and one of them
at most is changed (`Does`).  Actions that do so follow one another (`Follows.bind`), and every
request is such an action (`Request.does_runIn`).
-/

open Tiered.Action

namespace Tiered

open Bindings (numbers)

namespace Memory

/-- In memory something comes to what it comes to on the entries of a resolver, and changes one
table at most. -/
structure Does {α : Type} (x : Handle) (t : Nat) (m : Memory) (o : Outcome Memory α)
    (o' : Outcome Resolver α) : Prop where
  result : o.result = o'.result
  events : o.events = o'.events
  state : o.state.resolver x = o'.state
  changes : ChangesAt t m o.state

/-- In every memory where the tables own their values, an action does what another does to the
entries of a resolver. -/
def Follows {ι α : Type} (root : ι → Option Nat) (x : Handle) (t : Nat) (a : Action Memory α)
    (a' : Action Resolver α) : Prop :=
  ∀ m, m.Owned root → Does x t m (a m) (a' (m.resolver x))

variable {ι α β : Type} {root : ι → Option Nat} {x : Handle} {i j k : ι} {t : Nat} {m m' : Memory}

/-- **What follows goes on with what follows.** -/
theorem Follows.bind {a : Action Memory α} {a' : Action Resolver α} {f : α → Action Memory β}
    {f' : α → Action Resolver β} (hk : root k = some t) (ha : Follows root x t a a')
    (hf : ∀ v, Follows root x t (f v) (f' v)) : Follows root x t (a >>= f) (a' >>= f') := by
  intro m h
  obtain ⟨hresult, hevents, hstate, hchanges⟩ := ha m h
  rw [bind_apply, bind_apply, hresult]
  cases (a' (m.resolver x)).result with
  | error failure => exact ⟨rfl, hevents, hstate, hchanges⟩
  | ok v =>
      have hnext := hf v _ (h.changesAt hk hchanges).1
      rw [hstate] at hnext
      exact ⟨hnext.result, congrArg₂ _ hevents hnext.events, hnext.state,
        hchanges.trans hnext.changes⟩

theorem follows_pure (hk : root k = some t) (v : α) : Follows root x t (pure v) (pure v) :=
  fun _ h => ⟨rfl, rfl, rfl, h.changesAt_refl hk⟩

theorem follows_fail (hk : root k = some t) (failure : Failure) :
    Follows root x t (fail failure : Action Memory α) (fail failure) :=
  fun _ h => ⟨rfl, rfl, rfl, h.changesAt_refl hk⟩

theorem follows_lift (hk : root k = some t) (r : Except Failure α) :
    Follows root x t (lift r) (lift r) :=
  fun _ h => ⟨rfl, rfl, rfl, h.changesAt_refl hk⟩

/-- What writes nothing is done on the entries that the tables stand for. -/
theorem follows_reading (hk : root k = some t) {a : Action Resolver α}
    (ha : ∀ r, (a r).state = r) : Follows root x t (x.reading a) a :=
  fun _ h => ⟨rfl, rfl, (ha _).symm, h.changesAt_refl hk⟩

/-! ### Writing into the overlay -/

/-- Writing new values into the overlay leaves the environment. -/
theorem does_write (h : m.Owned root) (hi : root i = some x.overlay)
    (hj : root j = some x.environment) (hne : i ≠ j) (hm : Extends m m') (old new : Bindings)
    (hold : ∀ n ∈ numbers old, n ∈ numbers (m.table x.overlay)) (honce : (numbers old).Nodup)
    (hnew : ∀ n ∈ numbers new, m.values.length ≤ n ∧ n < m'.values.length)
    (honce' : (numbers new).Nodup) :
    (m'.withTable x.overlay (old.putAll new)).resolver x =
        ⟨(m.entriesOf old).putAll (m'.entriesOf new), m.entries x.environment⟩ ∧
      ChangesAt x.overlay m (m'.withTable x.overlay (old.putAll new)) := by
  have hinside : ∀ n ∈ numbers old, n < m.values.length := fun n hn => h.inside hi n (hold n hn)
  have hchanges := changesAt_withTable hm (h.made hi) (fun n hn => ⟨hold n hn, hinside n hn⟩) hnew
    honce honce'
  refine ⟨?_, hchanges⟩
  have hoverlay : (m'.withTable x.overlay (old.putAll new)).entries x.overlay =
      (m.entriesOf old).putAll (m'.entriesOf new) := by
    rw [entries, table_withTable ((h.made hi).trans_le hm.tables.length_le)]
    refine (entriesOf_putAll _ old new).trans ?_
    exact congrArg (Entries.putAll · _) (entriesOf_congr fun n hn => hm.value (hinside n hn))
  rw [resolver, hoverlay, (h.changesAt hi hchanges).2 hj hne.symm]

/-- Setting a value binds a new one. -/
theorem follows_set (hi : root i = some x.overlay) (hj : root j = some x.environment)
    (hne : i ≠ j) (key v : Value) :
    Follows root x x.overlay (x.set key v) (Resolver.set key v) := by
  refine Follows.bind hi (follows_lift hi _) fun _ => ?_
  intro m h
  obtain ⟨hstate, hchanges⟩ := does_write h hi hj hne (m.extends_withValues [(key, v)])
    (m.table x.overlay) (m.nextBindings [(key, v)]) (fun _ => id) (h.once hi)
    (fun n hn => mem_nextBindings.1 hn) (m.nodup_nextBindings [(key, v)])
  rw [entriesOf_nextBindings] at hstate
  exact ⟨rfl, rfl, hstate, hchanges⟩

/-- Restoring leaves in the overlay what the other table holds. -/
theorem restore_apply (ht : x.overlay < m.tables.length) {origin : Nat}
    (hne : origin ≠ x.overlay) :
    x.restore origin m = ⟨.ok (), m.withTable x.overlay (.putAll [] (m.table origin)), []⟩ := by
  have hstate : x.restore origin m = ⟨.ok (), (m.withTable x.overlay []).withTable x.overlay
      (((m.withTable x.overlay []).table x.overlay).putAll
        ((m.withTable x.overlay []).table origin)), []⟩ := rfl
  rw [hstate, table_withTable ht, table_withTable_of_ne hne, withTable, withTable, withTable,
    List.set_set]

/-- Restoring the overlay from itself leaves nothing there. -/
theorem restore_apply_self (ht : x.overlay < m.tables.length) :
    x.restore x.overlay m = ⟨.ok (), m.withTable x.overlay [], []⟩ := by
  have hstate : x.restore x.overlay m = ⟨.ok (), (m.withTable x.overlay []).withTable x.overlay
      (((m.withTable x.overlay []).table x.overlay).putAll
        ((m.withTable x.overlay []).table x.overlay)), []⟩ := rfl
  rw [hstate, table_withTable ht, withTable, withTable, List.set_set]
  rfl

/-- Restoring from a table that was just made is restoring from its entries. -/
theorem does_restore_made (h : m.Owned root) (hi : root i = some x.overlay)
    (hj : root j = some x.environment) (hne : i ≠ j) (es : Entries) :
    Does x x.overlay m (x.restore m.tables.length (m.made es))
      (Resolver.restore (.entries es) (m.resolver x)) := by
  have hlast : x.overlay < (m.made es).tables.length :=
    (h.made hi).trans_le (m.extends_made es).tables.length_le
  rw [restore_apply hlast (h.made hi).ne', table_made]
  obtain ⟨hstate, hchanges⟩ := does_write h hi hj hne (m.extends_made es) [] (m.nextBindings es)
    (by simp [numbers]) List.nodup_nil (fun n hn => mem_nextBindings.1 hn) (m.nodup_nextBindings es)
  rw [show (m.made es).entriesOf (m.nextBindings es) = es from entriesOf_nextBindings m es]
    at hstate
  exact ⟨rfl, rfl, hstate, hchanges⟩

theorem follows_restoreNew (hi : root i = some x.overlay) (hj : root j = some x.environment)
    (hne : i ≠ j) (es : Entries) :
    Follows root x x.overlay (x.restoreNew es) (Resolver.restore (.entries es)) := by
  intro m h
  have hdoes := does_restore_made h hi hj hne es
  rw [Handle.restoreNew, bind_apply, make_apply]
  exact ⟨hdoes.result, hdoes.events, hdoes.state, hdoes.changes⟩

/-- The overlay is empty behind restoring it from itself. -/
theorem follows_restore_self (hi : root i = some x.overlay) (hj : root j = some x.environment)
    (hne : i ≠ j) :
    Follows root x x.overlay (x.restore x.overlay) (Resolver.restore .overlay) := by
  intro m h
  rw [restore_apply_self (h.made hi)]
  obtain ⟨hstate, hchanges⟩ := does_write h hi hj hne (Extends.refl m) [] []
    (by simp [numbers]) List.nodup_nil (by simp [numbers]) List.nodup_nil
  exact ⟨rfl, rfl, hstate, hchanges⟩

theorem follows_restoreFrom (hi : root i = some x.overlay) (hj : root j = some x.environment)
    (hne : i ≠ j) (v : Value) :
    Follows root x x.overlay (x.restoreFrom v) (Resolver.restoreFrom v) := by
  have hnew := follows_restoreNew hi hj hne
  by_cases htable : ∃ es, v = .table es
  · obtain ⟨es, rfl⟩ := htable
    exact hnew es
  · have hno : ∀ es, v = .table es → False := fun es he => htable ⟨es, he⟩
    rw [Handle.restoreFrom.eq_2 x v hno, Resolver.restoreFrom.eq_2 v hno]
    refine Follows.bind hi (hnew []) fun _ => ?_
    cases v.items? with
    | none => exact follows_fail hi _
    | some items =>
        refine Follows.bind hi (hnew _) fun _ => ?_
        cases (Value.pairs 0 items).2 with
        | none => exact follows_pure hi _
        | some fault => exact follows_fail hi _

/-! ### Changing in place -/

/-- The number of the value that is found under a key. -/
theorem find?_resolver (m : Memory) (x : Handle) (key : Value) :
    ((m.resolver x).find? key).map Prod.fst = (m.number? x key).map m.value := by
  have hget : ∀ t, (m.entries t).get? key = ((m.table t).get? key).map m.value :=
    fun t => get?_entriesOf m _ key
  simp only [Resolver.find?, resolver, number?, hget]
  cases (m.table x.overlay).get? key with
  | some n => rfl
  | none => cases (m.table x.environment).get? key <;> rfl

/-- Changing in place a value that a table binds changes that table only. -/
theorem changesAt_change (h : m.Owned root) (hk : root k = some t) {n : Nat} (v : Value)
    (hn : n ∈ numbers (m.table t)) : ChangesAt t m { m with values := m.values.set n v } where
  tables := le_rfl
  values := (List.length_set).ge
  table _ _ _ := rfl
  value i _ hfree := by
    have hne : n ≠ i := fun he => hfree (he ▸ hn)
    simp [value, List.getElem?_set_ne hne]
  inside i hi := (h.inside hk i hi).trans_eq List.length_set.symm
  fresh _ := .inl
  once := h.once hk

/-- What is changed in place is what is written under the key where it was found. -/
theorem resolver_change (h : m.Owned root) (hi : root i = some x.overlay)
    (hj : root j = some x.environment) (hne : i ≠ j) {key : Value} {n : Nat} (v : Value)
    (hn : m.number? x key = some n) :
    ∃ k t, (k = i ∨ k = j) ∧ root k = some t ∧ n ∈ numbers (m.table t) ∧
      Memory.resolver { m with values := m.values.set n v } x =
        if (m.resolver x).overlay.contains key
        then { m.resolver x with overlay := (m.resolver x).overlay.put key v }
        else { m.resolver x with environment := (m.resolver x).environment.put key v } := by
  have hbound : ∀ {bs : Bindings}, bs.get? key = some n → n ∈ numbers bs := by
    intro bs hbs
    obtain ⟨b, hb, hbn⟩ := Option.map_eq_some_iff.1 hbs
    exact hbn ▸ List.mem_map_of_mem (List.mem_of_find?_eq_some hb)
  have hcontains : (m.resolver x).overlay.contains key =
      ((m.table x.overlay).get? key).isSome := by
    rw [Entries.contains, resolver, entries, get?_entriesOf, Option.isSome_map]
  rw [hcontains]
  rw [number?] at hn
  cases ho : (m.table x.overlay).get? key with
  | some n' =>
      rw [ho] at hn
      obtain rfl : n' = n := Option.some.inj hn
      have hmem := hbound ho
      have hchanges := changesAt_change h hi v hmem
      refine ⟨i, _, .inl rfl, hi, hmem, ?_⟩
      rw [Option.isSome_some, if_pos rfl, resolver, (h.changesAt hi hchanges).2 hj hne.symm]
      exact congrArg (Resolver.mk · _)
        (entriesOf_change v ho (h.once hi) (h.inside hi _ hmem))
  | none =>
      rw [ho] at hn
      have hmem := hbound hn
      have hchanges := changesAt_change h hj v hmem
      refine ⟨j, _, .inr rfl, hj, hmem, ?_⟩
      rw [Option.isSome_none, if_neg Bool.false_ne_true, resolver,
        (h.changesAt hj hchanges).2 hi hne]
      exact congrArg (Resolver.mk _ ·)
        (entriesOf_change v hn (h.once hj) (h.inside hj _ hmem))

/-- Adding to a part of a value in place changes the table where the value was found. -/
theorem does_change [Validator] (h : m.Owned root) (hi : root i = some x.overlay)
    (hj : root j = some x.environment) (hne : i ≠ j) (key : Value) (path : List Value)
    (sub v : Value) :
    ∃ k t, (k = i ∨ k = j) ∧ root k = some t ∧
      Does x t m (x.change key path sub v m) (Resolver.change key path sub v (m.resolver x)) := by
  set r := m.resolver x with hr
  have hrefl := h.changesAt_refl hi
  have hreading : ∀ {α : Type} (a : Action Resolver α),
      x.reading a m = ⟨(a r).result, m, (a r).events⟩ := fun _ => rfl
  simp only [Handle.change, Resolver.change, bind_apply, hreading, Resolver.get_state]
  cases hget : (Resolver.get key .notFound r).result with
  | error failure => exact ⟨i, _, .inl rfl, hi, rfl, rfl, rfl, hrefl⟩
  | ok found =>
      dsimp only
      cases hadd : Value.addAt sub v path found with
      | error fault => exact ⟨i, _, .inl rfl, hi, rfl, rfl, rfl, hrefl⟩
      | ok changed =>
          -- what can be added to is not the mark for absence, so that it has a number
          obtain ⟨n, hn⟩ : ∃ n, m.number? x key = some n := by
            refine Option.ne_none_iff_exists'.1 fun hnone => ?_
            have hfind : r.find? key = none := by
              have hmap := find?_resolver m x key
              rw [hnone] at hmap
              exact Option.map_eq_none_iff.1 hmap
            obtain rfl := Resolver.eq_of_get_missing r hfind hget
            obtain ⟨fault, habsent⟩ := Value.exists_addAt_notFound sub v path
            exact absurd (hadd.symm.trans habsent) (by simp)
          obtain ⟨k, t, hk, hroot, hmem, hstate⟩ := resolver_change h hi hj hne changed hn
          have hchange : Memory.change n changed m =
              ⟨.ok (), { m with values := m.values.set n changed }, []⟩ := rfl
          simp only [bind_apply, pure_apply, read_apply, hn, hchange, modify_apply]
          exact ⟨k, t, hk, hroot, rfl, rfl, hstate, changesAt_change h hroot changed hmem⟩

end Memory

/-! ### Requests -/

namespace Resolver

/-- What a request does to a resolver in memory. -/
def Request.runIn [Validator] (x : Handle) : Request → Action Memory Answer
  | set key v => do
    x.set key v
    return .done
  | restore entries => do
    x.restoreFrom entries
    return .done
  | restoreOverlay => do
    x.restore x.overlay
    return .done
  | change key path sub v => do
    x.change key path sub v
    return .done
  | q => x.reading q.run

open Memory

variable {ι : Type} {root : ι → Option Nat} {x : Handle} {i j : ι} {m : Memory}

/-- **A request does in memory what it does to the entries**, and changes one of the two tables at
most. -/
theorem Request.does_runIn [Validator] (h : m.Owned root) (hi : root i = some x.overlay)
    (hj : root j = some x.environment) (hne : i ≠ j) (q : Request) :
    ∃ k t, (k = i ∨ k = j) ∧ root k = some t ∧
      Does x t m (q.runIn x m) (q.run (m.resolver x)) := by
  have hdone : ∀ {a : Action Memory Unit} {a' : Action Resolver Unit},
      Follows root x x.overlay a a' →
        ∃ k t, (k = i ∨ k = j) ∧ root k = some t ∧
          Does x t m ((a >>= fun _ => pure Answer.done) m)
            ((a' >>= fun _ => pure Answer.done) (m.resolver x)) := fun ha =>
    ⟨i, _, .inl rfl, hi, (Follows.bind hi ha fun _ => follows_pure hi _) m h⟩
  cases q with
  | set key v => exact hdone (follows_set hi hj hne key v)
  | restore entries => exact hdone (follows_restoreFrom hi hj hne entries)
  | restoreOverlay => exact hdone (follows_restore_self hi hj hne)
  | change key path sub v =>
      obtain ⟨k, t, hk, hroot, hdoes⟩ := does_change h hi hj hne key path sub v
      refine ⟨k, t, hk, hroot, ?_⟩
      rw [runIn, run, bind_pure_apply, bind_pure_apply]
      exact ⟨congrArg (Except.map _) hdoes.result, hdoes.events, hdoes.state, hdoes.changes⟩
  | _ =>
      refine ⟨i, _, .inl rfl, hi, follows_reading hi (fun r => ?_) m h⟩
      exact Request.state_of_reads rfl r

end Resolver

end Tiered
