import Mathlib
import Tiered.Proofs.Resolver.Presence
import Tiered.Proofs.Resolver.Tiers

/-!
# Absence — when the mark for absence is got

The overlay has under a name what was written under it last, since it was last restored
(`Request.written`, `overlay_asked`), and otherwise the environment decides (`kept`).  Looking a
name up finds it if there is such a value.  The mark for absence is a value like any other to those
who write: it is got where nothing is kept, and also where the mark itself is (`absence_asked`).  So
it tells that a name is absent as long as nobody writes it under the name
(`kept_ne_of_not_written`).
-/

open Tiered.Action

namespace Tiered.Resolver

/-! ### What was written last -/

namespace Request

/-- The request writes under texts only, and changes nothing in place. -/
def Named : Request → Prop
  | set key _ => ∃ name, key = .text name
  | restore (.table es) => Entries.TextKeys es ∧ Entries.Distinct es
  | restore _ => False
  | change _ _ _ _ => False
  | _ => True

/-- What the overlay has under a name behind the request, by what it had before. -/
def written (name : Text) (before : Option Value) : Request → Option Value
  | set key v => if key.equals (.text name) then some v else before
  | restore (.table es) => Entries.get? es (.text name)
  | restoreOverlay => none
  | _ => before

end Request

/-- What is kept under a name behind requests: what was written last, or what is in the
environment. -/
def kept (r : Resolver) (name : Text) (qs : List Request) : Option Value :=
  (qs.foldl (Request.written name) (r.overlay.get? (.text name))).or
    (r.environment.get? (.text name))

variable {r : Resolver} {q : Request} {qs : List Request}

/-- **A request under texts writes into an overlay under texts**, and into nothing else. -/
theorem overlay_run (ho : r.overlay.TextKeys) (hq : q.Named) :
    (q.run r).state.overlay.TextKeys ∧ (q.run r).state.environment = r.environment ∧
      ∀ name, (q.run r).state.overlay.get? (.text name) =
        q.written name (r.overlay.get? (.text name)) := by
  cases q with
  | set key v =>
      obtain ⟨key, rfl⟩ := hq
      have hstate : ((Request.set (.text key) v).run r).state =
          { r with overlay := r.overlay.put (.text key) v } := rfl
      rw [hstate]
      refine ⟨Entries.textKeys_put ho key v, rfl, fun name => ?_⟩
      rw [Request.written, Value.equals_text]
      by_cases h : key = name
      · subst h
        rw [Entries.get?_put_self, beq_self_eq_true, if_pos rfl]
      · rw [Entries.get?_put_of_ne ho h, beq_false_of_ne h, if_neg Bool.false_ne_true]
  | restore entries =>
      cases entries with
      | table es =>
          have hstate : ((Request.restore (.table es)).run r).state =
              { r with overlay := Entries.putAll [] es } := rfl
          rw [hstate, Entries.putAll_nil hq.2]
          exact ⟨hq.1, rfl, fun name => rfl⟩
      | _ => exact hq.elim
  | restoreOverlay => exact ⟨Entries.regular_nil.texts, rfl, fun name => rfl⟩
  | change key path sub v => exact hq.elim
  | _ =>
      rw [Request.state_of_reads rfl r]
      exact ⟨ho, rfl, fun name => rfl⟩

/-- **The overlay has what was written last**, and the environment stays. -/
theorem overlay_asked (ho : r.overlay.TextKeys) (hqs : ∀ q ∈ qs, q.Named) :
    (r.asked qs).environment = r.environment ∧
      ∀ name, (r.asked qs).overlay.get? (.text name) =
        qs.foldl (Request.written name) (r.overlay.get? (.text name)) := by
  induction qs generalizing r with
  | nil => exact ⟨rfl, fun name => rfl⟩
  | cons q qs ih =>
      obtain ⟨hq, hrest⟩ := List.forall_mem_cons.1 hqs
      obtain ⟨htexts, henvironment, hwritten⟩ := overlay_run ho hq
      obtain ⟨henvironment', hwritten'⟩ := ih htexts hrest
      refine ⟨henvironment'.trans henvironment, fun name => (hwritten' name).trans ?_⟩
      rw [hwritten, List.foldl_cons]

/-- What is found is what is kept. -/
theorem find?_asked (ho : r.overlay.TextKeys) (hqs : ∀ q ∈ qs, q.Named) (name : Text) :
    ((r.asked qs).find? (.text name)).map Prod.fst = r.kept name qs := by
  obtain ⟨henvironment, hwritten⟩ := overlay_asked ho hqs
  rw [find?, kept, hwritten, henvironment]
  cases qs.foldl (Request.written name) (r.overlay.get? (.text name)) with
  | some v => rfl
  | none =>
      rw [Option.none_or]
      cases r.environment.get? (.text name) <;> rfl

/-! ### Where the mark is not written -/

/-- Behind a request there is no value that was not there before and that it does not write. -/
theorem Request.written_ne {name : Text} {before : Option Value} {v : Value}
    (hq : q.written name none ≠ some v) (hbefore : before ≠ some v) :
    q.written name before ≠ some v := by
  cases q with
  | set key w =>
      rw [written] at hq ⊢
      split_ifs at hq ⊢ with hkey
      · exact hq
      · exact hbefore
  | restore entries =>
      cases entries with
      | table es => exact hq
      | _ => exact hbefore
  | restoreOverlay => exact hq
  | _ => exact hbefore

/-- **A value that nobody writes under a name is not kept under it.** -/
theorem kept_ne_of_not_written {name : Text} {v : Value}
    (ho : r.overlay.get? (.text name) ≠ some v) (he : r.environment.get? (.text name) ≠ some v)
    (hqs : ∀ q ∈ qs, q.written name none ≠ some v) : r.kept name qs ≠ some v := by
  have hwritten : qs.foldl (Request.written name) (r.overlay.get? (.text name)) ≠ some v := by
    generalize r.overlay.get? (.text name) = before at ho
    induction qs generalizing before with
    | nil => exact ho
    | cons q qs ih =>
        obtain ⟨hq, hrest⟩ := List.forall_mem_cons.1 hqs
        exact ih hrest _ (Request.written_ne hq ho)
  rw [kept]
  cases h : qs.foldl (Request.written name) (r.overlay.get? (.text name)) with
  | some w => exact fun hw => hwritten (h.trans hw)
  | none => exact he

/-! ### What is got -/

/-- **What the mark for absence tells.**  Whatever is written under texts, by setting and restoring,
and whatever is read in between: a name is found exactly if a value is kept under it, which is what
was written last or, if the overlay has nothing, what is in the environment.  The mark is got
exactly if nothing is kept or the mark is.  So it is got exactly where neither tier holds the name,
and nothing is found, provided that the mark was in neither tier under the name in the beginning and
was never written under it. -/
theorem absence_asked (ho : r.overlay.TextKeys) (hqs : ∀ q ∈ qs, q.Named) (name : Text) :
    (∃ l, (lookup (.text name) (r.asked qs)).result = .ok l ∧
        l.found = (r.kept name qs).isSome ∧ l.found = (r.asked qs).holds (.text name)) ∧
      ((get (.text name) .notFound (r.asked qs)).result = .ok .notFound ↔
        r.kept name qs = none ∨ r.kept name qs = some .notFound) ∧
      (r.overlay.get? (.text name) ≠ some .notFound →
        r.environment.get? (.text name) ≠ some .notFound →
        (∀ q ∈ qs, q.written name none ≠ some .notFound) →
        ((get (.text name) .notFound (r.asked qs)).result = .ok .notFound ↔
            (r.asked qs).holds (.text name) = false) ∧
          ((get (.text name) .notFound (r.asked qs)).result = .ok .notFound ↔
            ∃ l, (lookup (.text name) (r.asked qs)).result = .ok l ∧ l.found = false)) := by
  have hkept := find?_asked ho hqs name
  generalize r.asked qs = s at hkept
  have hholds : s.holds (.text name) = (r.kept name qs).isSome := by
    rw [holds_eq, ← hkept, Option.isSome_map]
  have hlookup : (lookup (.text name) s).result = .ok (s.answer (.text name) name) :=
    lookup_text_result s name
  have hfound : (s.answer (.text name) name).found = s.holds (.text name) :=
    found_of_lookup hlookup
  have hget : (get (.text name) .notFound s).result = .ok .notFound ↔
      r.kept name qs = none ∨ r.kept name qs = some .notFound := by
    rw [get_text_result, hkept, Except.ok.injEq]
    cases r.kept name qs <;> simp
  refine ⟨⟨_, hlookup, hfound.trans hholds, hfound⟩, hget, fun hno hne hnever => ?_⟩
  have hnot : r.kept name qs ≠ some .notFound := kept_ne_of_not_written hno hne hnever
  have habsent : (get (.text name) .notFound s).result = .ok .notFound ↔
      s.holds (.text name) = false := by
    rw [hget, hholds, Option.isSome_eq_false_iff, Option.isNone_iff_eq_none]
    exact or_iff_left hnot
  refine ⟨habsent, ?_⟩
  rw [habsent, hlookup, ← hfound]
  simp

/-- A zero that is restored away, and nothing as a value. -/
def discarded : List Request := [.set (.text "a") (.int 0), .get (.text "a") .none,
  .restore (.table [(.text "b", .none)]), .set (.text "c") (.bool false)]

/-- The mark is got for the zero, which is not there any more, and nothing is got for what was
restored. -/
theorem absence_asked_discarded :
    (get (.text "a") .notFound ((⟨[], []⟩ : Resolver).asked discarded)).result = .ok .notFound ∧
      ∃ l, (lookup (.text "b") ((⟨[], []⟩ : Resolver).asked discarded)).result = .ok l ∧
        l.found = true := by
  have ho : Entries.TextKeys [] := Entries.regular_nil.texts
  have hqs : ∀ q ∈ discarded, q.Named := by
    simp [discarded, Request.Named, Entries.TextKeys, Entries.Distinct]
  have hmark : ∀ q ∈ discarded, q.written "a" none ≠ some .notFound := by
    simp [discarded, Request.written, Value.equals_text, Entries.get?_cons, Entries.get?_nil]
  obtain ⟨-, -, hnever⟩ := absence_asked (r := ⟨[], []⟩) ho hqs "a"
  obtain ⟨⟨l, hl, hfound, -⟩, -, -⟩ := absence_asked (r := ⟨[], []⟩) ho hqs "b"
  obtain ⟨habsent, -⟩ := hnever (by simp [Entries.get?_nil]) (by simp [Entries.get?_nil]) hmark
  exact ⟨habsent.2 (by decide +kernel), l, hl, hfound.trans (by decide +kernel)⟩

/-- The mark that was got for a name that is not there is set under another, and got for that one
although it is there. -/
theorem absence_asked_marked :
    (get (.text "x") .notFound ⟨[], []⟩).result = .ok .notFound ∧
      (get (.text "a") .notFound (set (.text "a") .notFound ⟨[], []⟩).state).result =
        .ok .notFound ∧
      (contains (.text "a") (set (.text "a") .notFound ⟨[], []⟩).state).result = .ok true ∧
      (lookup (.text "a") (set (.text "a") .notFound ⟨[], []⟩).state).result =
        .ok ⟨"a", true, .notFound, .snapshot⟩ := by
  have hfind : (set (.text "a") .notFound ⟨[], []⟩).state.find? (.text "a") =
      some (.notFound, .snapshot) := by
    rw [set_text, find?, Entries.get?_put_self]
  refine ⟨rfl, ?_, ?_, ?_⟩
  · rw [get_text_result, hfind]
    rfl
  · rw [contains_result rfl, holds_eq, hfind]
    rfl
  · have hlookup := lookup_text_result (set (.text "a") .notFound ⟨[], []⟩).state "a"
    rw [hlookup, nameOf, Validator.lawful_standard.text_text]
    simp [Except.map, answer, hfind]

end Tiered.Resolver
