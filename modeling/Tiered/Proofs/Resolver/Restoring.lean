import Mathlib
import Tiered.Proofs.Resolver.Presence

/-!
# Restoring — what an overlay is replaced by

Restoring empties the overlay before it reads the entries to restore.  Entries that are kept
elsewhere replace the overlay, in their order, and those of a copy leave the resolver as it was.
The overlay itself has none left by then: restored from itself, it is empty, and what was found in
it is not found there any more (`restore_asked`).
-/

namespace Tiered

/-- The value is read as a text: it is one, octets that encode one, or the mark for absence. -/
inductive Value.Naming : Value → Prop
  | text (t : Text) : Naming (.text t)
  | octets {bytes : List UInt8} {cs : List Char} :
      Text.Utf8.decode bytes = .ok cs → Naming (.octets bytes)
  | notFound : Naming .notFound

theorem Schema.exists_text_iff {v : Value} : (∃ t, Schema.text v = .ok t) ↔ v.Naming := by
  constructor
  · rintro ⟨t, ht⟩
    cases v with
    | text s => exact .text s
    | notFound => exact .notFound
    | octets bytes =>
        cases h : Text.Utf8.decode bytes with
        | ok cs => exact .octets h
        | error fault => simp [Schema.text, h] at ht
    | _ => exact absurd ht (by simp [Schema.text])
  · rintro (t | h | -)
    · exact ⟨t, rfl⟩
    · exact ⟨_, by rw [Schema.text, h]⟩
    · exact ⟨_, rfl⟩

namespace Resolver

/-- The origin holds no key twice; the overlay of a resolver does not anyway (`distinct_asked`). -/
def Origin.Mapping : Origin → Prop
  | entries es => es.Distinct
  | overlay => True

variable {r : Resolver} {o : Origin}

/-- What an origin holds once the overlay is empty is what the overlay becomes. -/
theorem overlay_restore (ho : o.Mapping) :
    (restore o r).state.overlay = o.entriesIn { r with overlay := [] } := by
  have hstate : (restore o r).state.overlay =
      Entries.putAll [] (o.entriesIn { r with overlay := [] }) := rfl
  rw [hstate]
  cases o with
  | entries es => exact Entries.putAll_nil ho
  | overlay => rfl

/-- A copy of the overlay restores what is there. -/
theorem restore_copy (hr : r.overlay.Distinct) : (restore (.entries r.overlay) r).state = r := by
  have hstate : (restore (.entries r.overlay) r).state =
      { r with overlay := Entries.putAll [] r.overlay } := rfl
  rw [hstate, Entries.putAll_nil hr]

/-- Only an overlay that is restored from itself does not become what the origin held before. -/
theorem overlay_restore_eq_iff (ho : o.Mapping) :
    (restore o r).state.overlay = o.entriesIn r ↔ o ≠ .overlay ∨ r.overlay = [] := by
  rw [overlay_restore ho]
  cases o with
  | entries es => exact iff_of_true rfl (.inl (by simp))
  | overlay => simp [Origin.entriesIn, eq_comm]

/-- A name is read as the same text whatever the tiers hold. -/
theorem lookup_result_of_naming {key : Value} (hkey : key.Naming) :
    ∃ name, ∀ r : Resolver, (lookup key r).result = .ok (r.answer key name) := by
  have hcheck : checkKey key = .ok () := by cases hkey <;> rfl
  obtain ⟨name, hname⟩ : ∃ name, Validator.text key = .ok name := Schema.exists_text_iff.2 hkey
  refine ⟨name, fun r => ?_⟩
  rw [lookup_result, hcheck, nameOf, hname]
  rfl

/-- Behind an empty overlay the same is found exactly where the overlay did not hold the key. -/
theorem answer_emptied_iff {key : Value} {name : Text} :
    ({ r with overlay := [] } : Resolver).answer key name = r.answer key name ↔
      r.overlay.contains key = false := by
  rw [answer, answer, find?, find?, Entries.get?_nil, Entries.contains]
  cases r.overlay.get? key with
  | none => exact iff_of_true rfl rfl
  | some v =>
      refine iff_of_false (fun h => ?_) (by simp)
      -- what was found in the overlay is now found in the environment, if at all
      cases hv : r.environment.get? key <;> simp [hv] at h

/-- **What restoring makes of the overlay.**  In every state that requests leave, restoring works,
leaves the environment, and puts into the overlay what the origin holds once the overlay is empty.
That is what the origin held before exactly if it is not the overlay itself, or if there was nothing
in the overlay; and a copy of the overlay leaves the resolver as it was, and so every look-up.  An
overlay that is restored from itself is emptied: a name is then looked up as before exactly if the
overlay did not hold it. -/
theorem restore_asked (hr : r.overlay.Distinct) (qs : List Request) (ho : o.Mapping) :
    (restore o (r.asked qs)).result = .ok () ∧
      (restore o (r.asked qs)).state.environment = (r.asked qs).environment ∧
      (restore o (r.asked qs)).state.overlay = o.entriesIn { r.asked qs with overlay := [] } ∧
      ((restore o (r.asked qs)).state.overlay = o.entriesIn (r.asked qs) ↔
        o ≠ .overlay ∨ (r.asked qs).overlay = []) ∧
      (restore (.entries (r.asked qs).overlay) (r.asked qs)).state = r.asked qs ∧
      ∀ key : Value, key.Naming →
        ((lookup key (restore .overlay (r.asked qs)).state).result =
            (lookup key (r.asked qs)).result ↔
          (r.asked qs).overlay.contains key = false) := by
  have hs := distinct_asked hr qs
  generalize r.asked qs = s at hs
  refine ⟨rfl, rfl, overlay_restore ho, overlay_restore_eq_iff ho, restore_copy hs,
    fun key hkey => ?_⟩
  obtain ⟨name, hlookup⟩ := lookup_result_of_naming hkey
  have hemptied : (restore .overlay s).state = { s with overlay := [] } := rfl
  rw [hlookup, hlookup, hemptied, Except.ok.injEq, answer_emptied_iff]

/-- Two variables that are set are replaced by one that has the name of the second. -/
theorem restore_asked_replaced :
    (restore (.entries [(.text "b", .int 3)]) ((⟨[], []⟩ : Resolver).asked
        [.set (.text "a") (.int 1), .set (.text "b") (.int 2)])).state.overlay =
      [(.text "b", .int 3)] := by
  have hb : Entries.Distinct [(.text "b", .int 3)] := List.pairwise_singleton _ _
  obtain ⟨-, -, hoverlay, -⟩ := restore_asked (r := ⟨[], []⟩) List.Pairwise.nil
    [.set (.text "a") (.int 1), .set (.text "b") (.int 2)]
    (show Origin.Mapping (.entries [(.text "b", .int 3)]) from hb)
  exact hoverlay

/-- Two variables are lost where the overlay is restored from itself. -/
theorem restore_asked_self :
    Origin.overlay.entriesIn ⟨[(.text "a", .int 1), (.text "b", .int 2)], []⟩ =
        [(.text "a", .int 1), (.text "b", .int 2)] ∧
      (restore .overlay ⟨[(.text "a", .int 1), (.text "b", .int 2)], []⟩).state.overlay = [] ∧
      (lookup (.text "a") (restore .overlay
        ⟨[(.text "a", .int 1), (.text "b", .int 2)], []⟩).state).result =
          .ok ⟨"a", false, .none, .none⟩ := ⟨rfl, rfl, rfl⟩

end Resolver

end Tiered
