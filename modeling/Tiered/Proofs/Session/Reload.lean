import Mathlib
import Tiered.Proofs.Session.Exit
import Tiered.Proofs.Store.Durability

/-!
# Reload — the reset point and the file that it was saved to

Behind a save, the reset point is what was kept of the overlay, and the snapshot file holds its
text.  Resetting goes back to the one and opening loads the other, which is what comes back of the
same table (`reset_reopen`).
-/

namespace Tiered

namespace Scene

open Files Store

variable {s t : Scene} {id : Nat} {kept : Entries}

/-- The overlay of the session, if it is open. -/
def overlay? (s : Scene) : Option Entries := s.session.current.map fun id => (s.resolver id).overlay

/-- The resolver of the session, if it is open, is one that was made. -/
def Made (s : Scene) : Prop := ∀ id, s.session.current = some id → id < s.resolvers.length

/-- **Resetting goes back to the reset point.** -/
theorem overlay?_reset (h : s.session.current = some id) (hmade : s.Made)
    (hdistinct : s.session.saved.Distinct) :
    (reset s).result = .ok () ∧ (reset s).state.overlay? = some s.session.saved := by
  rw [reset_of_open s h, Entries.putAll_nil hdistinct]
  refine ⟨rfl, ?_⟩
  simp [overlay?, resolver, h, hmade id h]

/-- Saving moves the reset point to what was kept. -/
theorem saved_of_save (h : s.session.current = some id) (hs : (save s).result = .ok kept) :
    (saveSnapshot s.session.snapshotPath (s.resolver id).overlay s.disk).result = .ok kept ∧
      (save s).state.disk =
        (saveSnapshot s.session.snapshotPath (s.resolver id).overlay s.disk).state ∧
      (save s).state.session.saved = kept := by
  rw [save_result s h] at hs
  rw [save_of_open s h]
  simp only [hs, and_self]

/-- **Opening behind an environment loads the snapshot into the overlay and the reset point.** -/
theorem overlay?_enter {environment saved : Entries}
    (henvironment : t.environmentOutcome.result = .ok environment)
    (hsaved : t.snapshotOutcome.result = .ok saved) :
    (enter t).result = .ok () ∧ (enter t).state.overlay? = some saved ∧
      (enter t).state.session.saved = saved := by
  rw [enter_eq, henvironment, hsaved]
  simp [overlay?, resolver]

/-- **Resetting and opening lead to the same table, but for tuples and for pairs of surrogates.**
Let saving an open session succeed, whose overlay is under texts.  What is kept are the entries of
the overlay that a file can keep, in order.

* Resetting, as long as the reset point has not been moved, goes back to exactly these.
* Opening any session on the same snapshot path, as long as the file is what was left there when it
  comes to be read, leads to what comes back of them.  That is the same keys in the same order with
  the same values but for lists in the place of tuples, exactly when no text in them holds a high
  surrogate right before a low one.
* It is the same table exactly when there is neither a tuple nor such a pair in it. -/
theorem reset_reopen (h : s.session.current = some id)
    (htexts : (s.resolver id).overlay.TextKeys) (hdistinct : (s.resolver id).overlay.Distinct)
    (hsound : ∀ e ∈ (s.resolver id).overlay, e.2.Sound) (hs : (save s).result = .ok kept) :
    kept = (s.resolver id).overlay.keep ∧ (save s).state.session.saved = kept ∧
    (∀ r : Scene, r.session.isOpen = true → r.Made → r.session.saved = kept →
      (reset r).result = .ok () ∧ (reset r).state.overlay? = some kept) ∧
    (∀ (t : Scene) (environment : Entries), t.session.snapshotPath = s.session.snapshotPath →
      t.environmentOutcome.result = .ok environment →
      t.environmentOutcome.state.readFile s.session.snapshotPath.text =
        (save s).state.disk.readFile s.session.snapshotPath.text →
      (enter t).result = .ok () ∧ (enter t).state.overlay? = some kept.reread ∧
        (enter t).state.session.saved = kept.reread) ∧
    (kept.reread = kept.listed ↔ (Value.table kept).Unsplit) ∧
    (kept.reread = kept ↔ (∀ e ∈ kept, e.2.TupleFree) ∧ (Value.table kept).Unsplit) := by
  obtain ⟨hsaved, hdisk, hpoint⟩ := saved_of_save h hs
  have hregular := regular_of_saved hsaved htexts hdistinct hsound
  obtain ⟨rfl, -⟩ := written_of_saved hsaved
  have hsoundKept := hregular.keep.sound_table
  refine ⟨rfl, hpoint, ?_, ?_, Entries.reread_eq_listed_iff hsoundKept,
    Entries.reread_eq_self_iff hsoundKept⟩
  · intro r hopen hmade hr
    obtain ⟨id', hid⟩ := Option.isSome_iff_exists.1 hopen
    rw [← hr]
    exact overlay?_reset hid hmade (hr ▸ hregular.keep.distinct)
  · intro t environment hpath henvironment hread
    refine overlay?_enter henvironment ?_
    rw [hdisk] at hread
    rw [snapshotOutcome, hpath, loadSnapshot_of_saved hsaved hregular hread]

/-- An open session with a tuple in its overlay. -/
def tupled : Scene := single [] "s" (.tuple [.int 1])

/-- Resetting leads back to the tuple, and opening anew to a list. -/
theorem reset_reopen_tupled :
    (save tupled).result = .ok [(.text "key", .tuple [.int 1])] ∧
      (reset (save tupled).state).state.overlay? = some [(.text "key", .tuple [.int 1])] ∧
      (enter (save tupled).state).state.overlay? = some [(.text "key", .list [.int 1])] := by
  have hopen : tupled.session.current = some 0 := rfl
  have hcurrent : (save tupled).state.session.current = some 0 ∧
      (save tupled).state.resolvers.length = 1 := by decide +kernel
  obtain ⟨kept, hs⟩ := exists_ok_of_isSome (x := (save tupled).result) (by decide +kernel)
  obtain ⟨environment, henvironment⟩ := exists_ok_of_isSome
    (x := (save tupled).state.environmentOutcome.result) (by decide +kernel)
  obtain ⟨hkept, hpoint, hreset, henter, hlisted, -⟩ := reset_reopen hopen
    (by simp [tupled, single, resolver, Entries.TextKeys]) (List.pairwise_singleton _ _)
    (by simp [tupled, single, resolver, Value.Sound, Value.SoundItems]) hs
  obtain rfl : kept = [(.text "key", .tuple [.int 1])] := hkept
  have hread := (henter _ environment (by decide +kernel) henvironment (by decide +kernel)).2.1
  rw [hlisted.2 ⟨⟨Text.unsplit_ofString _, trivial, trivial⟩, trivial⟩] at hread
  refine ⟨hs, (hreset _ (by decide +kernel) ?_ hpoint).2, hread⟩
  rintro id hid
  obtain rfl := Option.some.inj (hcurrent.1.symm.trans hid)
  exact hcurrent.2 ▸ Nat.one_pos

/-- A session that was not opened yet, in the empty folder `/w`. -/
def untouched : Scene := ⟨.bare [[0x77]], [], .new Config.default ⟨[slash], [[0x77]]⟩⟩

/-- The same session after it was opened and a tuple was written into it. -/
def begun : Scene :=
  ((do enter; resolving (Resolver.set (.text "t") (.tuple [.int 1]))) untouched).state

/-- Behind a save, resetting and opening anew lead to values of different kinds: to the tuple, and
to a list. -/
theorem reset_reopen_kinds :
    (save begun).result.toOption.isSome = true ∧
      (reset (save begun).state).state.overlay?.map (List.map fun e => e.2.kind) = some ["tuple"] ∧
      (enter (save begun).state).state.overlay?.map (List.map fun e => e.2.kind) =
        some ["list"] := by
  decide +kernel

end Scene

end Tiered
