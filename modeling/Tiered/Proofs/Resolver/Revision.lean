import Mathlib
import Tiered.Proofs.Resolver.Outcome
import Tiered.Proofs.Resolver.Request
import Tiered.Proofs.Resolver.Tiers

/-!
# Revision — what requests make of an environment

No request writes into the environment of a resolver, but a value that it gives can be changed in
place where it is (`Request.reaches`).  So the environment keeps its names in their order, and the
value under a name is what such changes, one after the other, make of it (`environment_asked`).
Where none reaches it, it stays (`revised_of_not_reached`).
-/

open Tiered.Action

namespace Tiered

/-- What is found in a table under texts is found under a text. -/
theorem Entries.exists_text_of_get? {es : Entries} (hes : es.TextKeys) {key v : Value}
    (h : es.get? key = some v) : ∃ name, key = .text name := by
  obtain ⟨e, he, -⟩ := Option.map_eq_some_iff.1 h
  obtain ⟨name, hname⟩ := hes e (List.mem_of_find?_eq_some he)
  have hequal := List.find?_some he
  rw [hname] at hequal
  exact ⟨name, Value.equals_text_iff.1 hequal⟩

theorem Entries.textKeys_of_keys {es fs : Entries} (hes : es.TextKeys)
    (h : fs.keys = es.keys) : fs.TextKeys := by
  intro f hf
  have hmem : f.1 ∈ es.keys := h ▸ List.mem_map_of_mem hf
  obtain ⟨e, he, hkey⟩ := List.mem_map.1 hmem
  obtain ⟨name, hname⟩ := hes e he
  exact ⟨name, hkey ▸ hname⟩

/-- Nothing can be added to the mark for absence. -/
theorem Value.exists_addAt_notFound (sub v : Value) (path : List Value) :
    ∃ fault, Value.addAt sub v path .notFound = .error fault := by
  cases path with
  | nil =>
      rw [addAt, add]
      split_ifs
      · exact ⟨_, rfl⟩
      · exact ⟨_, rfl⟩
      all_goals simp
  | cons p path => exact ⟨_, rfl⟩

namespace Resolver

variable (r : Resolver)

/-! ### One request -/

section Validator

variable [Validator]

/-- Looking up leaves the resolver, under whatever key. -/
theorem lookup_state (key : Value) : (lookup key r).state = r := by
  simp only [lookup, Action.bind_apply, Action.lift_apply]
  cases checkKey key with
  | error failure => rfl
  | ok u => cases nameOf key <;> rfl

theorem get_state (key absent : Value) : (get key absent r).state = r :=
  (Action.bind_pure_state _ _ r).trans (lookup_state r key)

theorem lookup_result (key : Value) : (lookup key r).result =
    (checkKey key).bind fun _ => (nameOf key).map (r.answer key) := by
  simp only [lookup, Action.bind_apply, Action.lift_apply]
  cases checkKey key with
  | error failure => rfl
  | ok u => cases nameOf key <;> rfl

theorem get_result (key absent : Value) : (get key absent r).result =
    (lookup key r).result.map fun l => if l.found then l.value else absent :=
  congrArg Outcome.result (Action.bind_pure_apply _ _ r)

/-- Where neither tier holds a key, the given value is got. -/
theorem eq_of_get_missing {key absent found : Value} (h : r.find? key = none)
    (hf : (get key absent r).result = .ok found) : found = absent := by
  rw [get_result, lookup_result] at hf
  obtain ⟨l, hl, hfound⟩ := map_eq_ok_iff.1 hf
  obtain ⟨u, -, hl⟩ := bind_eq_ok_iff.1 hl
  obtain ⟨name, -, rfl⟩ := map_eq_ok_iff.1 hl
  rw [answer, h] at hfound
  exact hfound.symm

/-- What is changed in place is written back where it was found. -/
theorem change_state (key : Value) (path : List Value) (sub v : Value) :
    (change key path sub v r).state =
      match (get key .notFound r).result.toOption.bind fun found =>
          (Value.addAt sub v path found).toOption with
      | none => r
      | some changed =>
        if r.overlay.contains key then { r with overlay := r.overlay.put key changed }
        else { r with environment := r.environment.put key changed } := by
  simp only [change, Action.bind_apply, get_state]
  cases (get key .notFound r).result with
  | error failure => rfl
  | ok found =>
      dsimp only [Except.toOption, Option.bind]
      cases Value.addAt sub v path found <;> rfl

end Validator

/-- What is got under a text. -/
theorem get_text_result (key : Text) (absent : Value) : (get (.text key) absent r).result =
    .ok (((r.find? (.text key)).map Prod.fst).getD absent) := by
  have hlookup : (lookup (.text key) r).result = .ok (r.answer (.text key) key) :=
    lookup_text_result r key
  rw [get_eq, hlookup, answer]
  cases r.find? (.text key) <;> rfl

/-- Changing in place what the overlay holds, or what nothing can be added to, leaves the
environment; changing what is found in the environment writes it back there. -/
theorem environment_change_text (name : Text) (path : List Value) (sub v : Value) :
    (change (.text name) path sub v r).state.environment =
      if r.overlay.contains (.text name) then r.environment
      else match (r.environment.get? (.text name)).bind fun found =>
          (Value.addAt sub v path found).toOption with
        | none => r.environment
        | some changed => r.environment.put (.text name) changed := by
  obtain ⟨fault, habsent⟩ := Value.exists_addAt_notFound sub v path
  rw [change_state, get_text_result, find?, Entries.contains]
  cases r.overlay.get? (.text name) with
  | some found =>
      dsimp only [Except.toOption, Option.bind, Option.map, Option.getD, Option.isSome]
      cases Value.addAt sub v path found <;> rfl
  | none =>
      cases r.environment.get? (.text name) with
      | none =>
          dsimp only [Except.toOption, Option.bind, Option.map, Option.getD, Option.isSome]
          rw [habsent]
          rfl
      | some found =>
          dsimp only [Except.toOption, Option.bind, Option.map, Option.getD, Option.isSome]
          cases Value.addAt sub v path found <;> rfl

/-- An environment under texts has nothing to change under another key. -/
theorem environment_change_other {key : Value} (hkey : ∀ name, key ≠ .text name)
    (htexts : r.environment.TextKeys) (path : List Value) (sub v : Value) :
    (change key path sub v r).state.environment = r.environment := by
  have hnone : r.environment.get? key = none := by
    refine Option.eq_none_iff_forall_ne_some.2 fun found h => ?_
    obtain ⟨name, hname⟩ := Entries.exists_text_of_get? htexts h
    exact hkey name hname
  rw [change_state]
  split
  · rfl
  · next changed hchanged =>
    split_ifs with hc
    · rfl
    · -- the value that was got is the mark for absence, to which nothing can be added
      rw [Entries.contains, Bool.not_eq_true, Option.isSome_eq_false_iff,
        Option.isNone_iff_eq_none] at hc
      have hfind : r.find? key = none := by
        rw [find?, hc, hnone]
        rfl
      obtain ⟨found, hfound, hadd⟩ := Option.bind_eq_some_iff.1 hchanged
      cases hget : (get key .notFound r).result with
      | error failure => simp [hget, Except.toOption] at hfound
      | ok got =>
          obtain rfl := eq_of_get_missing r hfind hget
          obtain ⟨fault, habsent⟩ := Value.exists_addAt_notFound sub v path
          rw [hget] at hfound
          obtain rfl := Option.some.inj hfound
          rw [habsent] at hadd
          exact absurd hadd (by simp [Except.toOption])

/-! ### Requests that only read -/

theorem contains_state (key : Value) : (contains key r).state = r := by
  simp only [contains, Action.bind_apply, Action.lift_apply]
  cases checkKey key <;> rfl

theorem has_state (key : Value) : (has key r).state = r := by
  cases key
  case text t => exact contains_state r _
  all_goals rfl

section Validator

variable [Validator]

/-- The request reads and writes nothing. -/
def Request.reads : Request → Bool
  | lookup _ | get _ _ | contains _ | has _ | keys | copy => true
  | _ => false

/-- **What reads leaves the resolver as it is.** -/
theorem Request.state_of_reads {q : Request} (h : q.reads = true) (r : Resolver) :
    (q.run r).state = r := by
  cases q with
  | lookup key => exact (Action.bind_pure_state _ _ r).trans (lookup_state r key)
  | get key absent => exact (Action.bind_pure_state _ _ r).trans (get_state r key absent)
  | contains key => exact (Action.bind_pure_state _ _ r).trans (contains_state r key)
  | has key => exact (Action.bind_pure_state _ _ r).trans (has_state r key)
  | keys | copy => rfl
  | _ => exact absurd h (by simp [reads])

/-- The resolver that requests leave, one after the other. -/
def asked (r : Resolver) (qs : List Request) : Resolver := qs.foldl (fun r q => (q.run r).state) r

end Validator

/-! ### What becomes of a value -/

theorem keeps_environment_restore (o : Origin) : Keeps Resolver.environment (restore o) :=
  fun _ => rfl

theorem keeps_environment_restoreFrom (v : Value) :
    Keeps Resolver.environment (restoreFrom v) := by
  rw [restoreFrom.eq_def]
  split
  · exact keeps_environment_restore _
  · refine (keeps_environment_restore _).bind fun _ => ?_
    split
    · exact keeps_fail _
    · refine (keeps_environment_restore _).bind fun _ => ?_
      split
      · exact keeps_pure _
      · exact keeps_fail _

namespace Request

/-- The request is to change in place what the environment has under a name: the overlay does not
hold the name. -/
def reaches (r : Resolver) (name : Text) : Request → Bool
  | change (.text key) _ _ _ => key == name && !r.overlay.contains (.text name)
  | _ => false

/-- What the request makes of the value that the environment has under a name. -/
def revised (r : Resolver) (name : Text) (q : Request) (v : Value) : Value :=
  match q with
  | change _ path sub w =>
    if q.reaches r name then (Value.addAt sub w path v).toOption.getD v else v
  | _ => v

end Request

/-- One of the requests is to change in place what the environment has under a name. -/
def reached (r : Resolver) (name : Text) : List Request → Bool
  | [] => false
  | q :: qs => q.reaches r name || reached (q.run r).state name qs

/-- What requests make of the value that the environment has under a name. -/
def revised (r : Resolver) (name : Text) : List Request → Value → Value
  | [], v => v
  | q :: qs, v => revised (q.run r).state name qs (q.revised r name v)

namespace Request

variable {r}

theorem reaches_change_iff {key name : Text} {path : List Value} {sub w : Value} :
    (change (.text key) path sub w).reaches r name = true ↔
      key = name ∧ r.overlay.contains (.text name) = false := by
  rw [reaches, Bool.and_eq_true, beq_iff_eq, Bool.not_eq_true']

/-- What does not reach a name leaves its value. -/
theorem map_revised_of_not_reaches {name : Text} {q : Request} (h : q.reaches r name = false)
    (v? : Option Value) : v?.map (q.revised r name) = v? := by
  have hid : q.revised r name = id := by
    funext v
    cases q with
    | change key path sub w => rw [revised, h, if_neg Bool.false_ne_true, id]
    | _ => rfl
  rw [hid, Option.map_id, id]

/-- What is no change in place keeps the environment. -/
theorem keeps_environment {q : Request} (h : ∀ key path sub w, q ≠ .change key path sub w) :
    Keeps Resolver.environment q.run := by
  cases q with
  | change key path sub w => exact absurd rfl (h key path sub w)
  | set key v =>
      refine Keeps.bind ?_ fun _ => keeps_pure _
      refine (keeps_lift _).bind fun _ => Keeps.bind (keeps_modify ?_) fun _ => keeps_emit _
      exact fun r => rfl
  | restore entries => exact (keeps_environment_restoreFrom entries).bind fun _ => keeps_pure _
  | restoreOverlay => exact (keeps_environment_restore _).bind fun _ => keeps_pure _
  | _ => exact fun r => congrArg Resolver.environment (state_of_reads rfl r)

/-- A change in place under a text keeps the names of the environment, and revises the value. -/
theorem environment_run_change (htexts : r.environment.TextKeys) (key : Text)
    (path : List Value) (sub w : Value) :
    (Resolver.change (.text key) path sub w r).state.environment.keys = r.environment.keys ∧
      ∀ name, (Resolver.change (.text key) path sub w r).state.environment.get? (.text name) =
        (r.environment.get? (.text name)).map ((change (.text key) path sub w).revised r name) := by
  have hother : ∀ name, key ≠ name → (change (.text key) path sub w).reaches r name = false :=
    fun name hne => Bool.eq_false_iff.2 fun h => hne (reaches_change_iff.1 h).1
  rw [environment_change_text]
  by_cases hc : r.overlay.contains (.text key) = true
  · rw [if_pos hc]
    refine ⟨rfl, fun name => (map_revised_of_not_reaches ?_ _).symm⟩
    refine Bool.eq_false_iff.2 fun h => ?_
    obtain ⟨rfl, hn⟩ := reaches_change_iff.1 h
    exact Bool.false_ne_true (hn.symm.trans hc)
  rw [if_neg hc]
  cases hb : (r.environment.get? (.text key)).bind fun found =>
      (Value.addAt sub w path found).toOption with
  | none =>
      refine ⟨rfl, fun name => ?_⟩
      by_cases hk : key = name
      · subst hk
        cases hg : r.environment.get? (.text key) with
        | none => rfl
        | some found =>
            rw [hg, Option.bind_some] at hb
            rw [Option.map_some, revised, hb, Option.getD_none, ite_self]
      · exact (map_revised_of_not_reaches (hother name hk) _).symm
  | some changed =>
      obtain ⟨found, hg, hadd⟩ := Option.bind_eq_some_iff.1 hb
      have hin : r.environment.contains (.text key) = true := by
        rw [Entries.contains, hg]
        rfl
      refine ⟨(Entries.keys_put _ _ _).trans (if_pos hin), fun name => ?_⟩
      by_cases hk : key = name
      · subst hk
        have hreaches : (change (.text key) path sub w).reaches r key = true :=
          reaches_change_iff.2 ⟨rfl, Bool.eq_false_iff.2 hc⟩
        rw [Entries.get?_put_self, hg, Option.map_some, revised, if_pos hreaches, hadd,
          Option.getD_some]
      · rw [Entries.get?_put_of_ne htexts hk, map_revised_of_not_reaches (hother name hk)]

/-- **What a request makes of an environment under texts**: its names stay, in order, and the value
under each is revised. -/
theorem environment_run (htexts : r.environment.TextKeys) (q : Request) :
    (q.run r).state.environment.keys = r.environment.keys ∧
      ∀ name, (q.run r).state.environment.get? (.text name) =
        (r.environment.get? (.text name)).map (q.revised r name) := by
  by_cases h : ∃ key path sub w, q = .change key path sub w
  · obtain ⟨key, path, sub, w, rfl⟩ := h
    have hstate : ((change key path sub w).run r).state =
        (Resolver.change key path sub w r).state := Action.bind_pure_state _ _ r
    rw [hstate]
    by_cases hkey : ∃ name, key = .text name
    · obtain ⟨key, rfl⟩ := hkey
      exact environment_run_change htexts key path sub w
    · push Not at hkey
      rw [environment_change_other r hkey htexts]
      refine ⟨rfl, fun name => (map_revised_of_not_reaches ?_ _).symm⟩
      cases key with
      | text name => exact absurd rfl (hkey name)
      | _ => rfl
  · push Not at h
    have hkept : (q.run r).state.environment = r.environment := keeps_environment h r
    rw [hkept]
    refine ⟨rfl, fun name => (map_revised_of_not_reaches ?_ _).symm⟩
    cases q with
    | change key path sub w => exact absurd rfl (h key path sub w)
    | _ => rfl

end Request

/-! ### A row of requests -/

/-- **What requests make of an environment under texts**: its names stay, in order, and the value
under each is revised by one after the other. -/
theorem environment_asked {r : Resolver} (htexts : r.environment.TextKeys) (qs : List Request) :
    (r.asked qs).environment.keys = r.environment.keys ∧
      ∀ name, (r.asked qs).environment.get? (.text name) =
        (r.environment.get? (.text name)).map (r.revised name qs) := by
  induction qs generalizing r with
  | nil => exact ⟨rfl, fun name => (congrFun Option.map_id _).symm⟩
  | cons q qs ih =>
      obtain ⟨hkeys, hvalue⟩ := q.environment_run htexts
      obtain ⟨hkeys', hvalue'⟩ := ih (Entries.textKeys_of_keys htexts hkeys)
      refine ⟨hkeys'.trans hkeys, fun name => (hvalue' name).trans ?_⟩
      rw [hvalue, Option.map_map]
      rfl

/-- **A value that no request reaches stays.** -/
theorem revised_of_not_reached {r : Resolver} {name : Text} {qs : List Request}
    (h : r.reached name qs = false) (v : Value) : r.revised name qs v = v := by
  induction qs generalizing r with
  | nil => rfl
  | cons q qs ih =>
      obtain ⟨hq, hqs⟩ := Bool.or_eq_false_iff.1 h
      have hstays : some (q.revised r name v) = some v :=
        Request.map_revised_of_not_reaches hq (some v)
      rw [revised, Option.some.inj hstays, ih hqs]

/-- **An environment that no request reaches stays.** -/
theorem environment_of_not_reached {r : Resolver} (htexts : r.environment.TextKeys)
    (hdistinct : r.environment.Distinct) {qs : List Request}
    (h : ∀ name, r.reached name qs = false) : (r.asked qs).environment = r.environment := by
  obtain ⟨hkeys, hvalue⟩ := environment_asked htexts qs
  have htexts' := Entries.textKeys_of_keys htexts hkeys
  refine (Entries.ext_texts htexts htexts' hdistinct hkeys.symm fun name => ?_).symm
  rw [hvalue]
  cases r.environment.get? (.text name) with
  | none => rfl
  | some v => rw [Option.map_some, revised_of_not_reached (h name)]

end Resolver

end Tiered
