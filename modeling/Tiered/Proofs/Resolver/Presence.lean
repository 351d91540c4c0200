import Mathlib
import Tiered.Proofs.Resolver.Effect
import Tiered.Proofs.Schema.Standard
import Tiered.Proofs.Value.Equality
import Tiered.Resolver.Keyed

/-!
# Presence — whether a key is there

A key is there if one of the keys that are listed is the same for a table.  A tier says the same of
every key (`lists_eq_holds`), so that asking for a key, looking it up and getting it agree with the
list, in whatever state setting and restoring left the resolver (`presence_asked`).  Two of the ways
to ask are narrower by what they are for: only a text is the name of a variable, and only what the
library for records reads as a text can be looked up (`exists_lookup_iff`).  All this is said of
keys that are objects.  Where they are found by their values only, it is so of the resolver whose
keys are values, as the two do the same (`run_plain`).
-/

open Tiered.Action

namespace Tiered

/-! ### Where keys are values -/

namespace Resolver

variable {r : Resolver} {key : Value}

theorem checkKey_eq_ok (hkey : key.unhashable? = none) : checkKey key = .ok () :=
  checkKey_eq_ok_iff.2 hkey

theorem contains_result (hkey : key.unhashable? = none) :
    (contains key r).result = .ok (r.holds key) := by
  rw [contains, Action.bind_apply, Action.lift_apply, checkKey_eq_ok hkey]
  rfl

/-- What was looked up was found if it is there. -/
theorem found_of_lookup [Validator] {l : Lookup} (h : (lookup key r).result = .ok l) :
    l.found = r.holds key := by
  rw [lookup_result] at h
  obtain ⟨u, -, h⟩ := bind_eq_ok_iff.1 h
  obtain ⟨name, -, rfl⟩ := map_eq_ok_iff.1 h
  rw [holds_eq, answer]
  cases r.find? key <;> rfl

end Resolver

open KeyObject (value same)

/-! ### Setting and restoring -/

section Plain

variable {κ : Type} [KeyObject κ]

namespace Keyed

/-- What changes the keys of a resolver. -/
inductive Update (κ : Type) where
  | set (key : κ) (v : Value)
  | restore (es : List (κ × Value))

/-- What an update does. -/
def Update.run : Update κ → Action (Keyed κ) Unit
  | set key v => Keyed.set key v
  | restore es => Keyed.restore es

/-- The resolver that updates leave, one after the other. -/
def updated (r : Keyed κ) (us : List (Update κ)) : Keyed κ :=
  us.foldl (fun r u => (u.run r).state) r

/-! ### Keys that are found by their values -/

/-- The entries under the values of their keys. -/
def plainEntries (es : List (κ × Value)) : Entries := es.map fun e => (value e.1, e.2)

/-- The resolver whose keys are the values of the keys. -/
def plain (r : Keyed κ) : Resolver := ⟨plainEntries r.overlay, plainEntries r.environment⟩

/-- The update as a request to the resolver whose keys are values. -/
def Update.request : Update κ → Resolver.Request
  | set key v => .set (value key) v
  | restore es => .restore (.table (plainEntries es))

theorem plainEntries_cons (e : κ × Value) (es : List (κ × Value)) :
    plainEntries (e :: es) = (value e.1, e.2) :: plainEntries es := rfl

end Keyed

/-- The outcome with the resolver whose keys are values. -/
def Outcome.plain {α : Type} (o : Outcome (Keyed κ) α) : Outcome Resolver α :=
  ⟨o.result, o.state.plain, o.events⟩

namespace Keyed

variable (hplain : ∀ k l : κ, same k l = (value k).equals (value l))

include hplain

theorem get?_plain (es : List (κ × Value)) (key : κ) :
    (plainEntries es).get? (value key) = find es key := by
  induction es with
  | nil => rfl
  | cons e es ih =>
      rw [plainEntries_cons, Entries.get?_cons, ih, find, find, List.find?_cons, hplain]
      cases (value e.1).equals (value key) <;> rfl

theorem plain_put (es : List (κ × Value)) (key : κ) (v : Value) :
    plainEntries (put es key v) = Entries.put (plainEntries es) (value key) v := by
  induction es with
  | nil => rfl
  | cons e es ih =>
      rw [put, plainEntries_cons, Entries.put, hplain, ← ih]
      cases (value e.1).equals (value key) <;> rfl

theorem plain_putAll (es fs : List (κ × Value)) :
    plainEntries (putAll es fs) = Entries.putAll (plainEntries es) (plainEntries fs) := by
  induction fs generalizing es with
  | nil => rfl
  | cons f fs ih =>
      refine (ih (put es f.1 f.2)).trans ?_
      rw [plain_put hplain]
      rfl

theorem holds_plain (r : Keyed κ) (key : κ) : r.plain.holds (value key) = r.holds key := by
  rw [Resolver.holds, Entries.contains, Entries.contains, plain, get?_plain hplain,
    get?_plain hplain, holds]

theorem answer_plain (r : Keyed κ) (key : κ) (name : Text) :
    r.plain.answer (value key) name = r.answer key name := by
  rw [Resolver.answer, Resolver.find?, plain, get?_plain hplain, get?_plain hplain]
  rfl

theorem keys_plain (r : Keyed κ) : r.plain.keys = r.keys.map value := by
  have hkeys : ∀ es : List (κ × Value), (plainEntries es).keys = (es.map Prod.fst).map value := by
    intro es
    rw [Entries.keys, plainEntries, List.map_map, List.map_map]
    rfl
  rw [Resolver.keys, keys, List.map_append, plain, hkeys, hkeys, List.filter_map]
  refine congrArg (_ ++ List.map value ·) (List.filter_congr fun k _ => ?_)
  rw [Function.comp_apply, Entries.contains, get?_plain hplain]

theorem set_plain (r : Keyed κ) (key : κ) (v : Value) :
    (set key v r).plain = Resolver.set (value key) v r.plain := by
  simp only [set, Resolver.set, bind_apply, lift_apply, modify_apply]
  cases Resolver.checkKey (value key) with
  | error failure => rfl
  | ok u => exact congrArg (fun es => Outcome.mk _ (Resolver.mk es _) _) (plain_put hplain _ _ _)

theorem restore_plain (r : Keyed κ) (es : List (κ × Value)) :
    (restore es r).plain = Resolver.restore (.entries (plainEntries es)) r.plain :=
  congrArg (fun es => Outcome.mk _ (Resolver.mk es _) _) (plain_putAll hplain [] es)

theorem contains_plain (r : Keyed κ) (key : κ) :
    (contains key r).plain = Resolver.contains (value key) r.plain := by
  simp only [contains, Resolver.contains, bind_apply, lift_apply, read_apply]
  cases Resolver.checkKey (value key) with
  | error failure => rfl
  | ok u => exact congrArg (fun b => Outcome.mk (.ok b) _ _) (holds_plain hplain r key).symm

theorem has_plain (r : Keyed κ) (key : κ) :
    (has key r).plain = Resolver.has (value key) r.plain := by
  unfold has Resolver.has
  cases hv : value key with
  | text t => exact (contains_plain hplain r key).trans (by rw [hv])
  | _ => rfl

section Validator

variable [Validator]

theorem lookup_plain (r : Keyed κ) (key : κ) :
    (lookup key r).plain = Resolver.lookup (value key) r.plain := by
  simp only [lookup, Resolver.lookup, bind_apply, lift_apply, read_apply, answer_plain hplain]
  cases Resolver.checkKey (value key) with
  | error failure => rfl
  | ok u => cases Resolver.nameOf (value key) <;> rfl

theorem get_plain (r : Keyed κ) (key : κ) (absent : Value) :
    (get key absent r).plain = Resolver.get (value key) absent r.plain := by
  rw [get, bind_pure_apply, Resolver.get, bind_pure_apply, ← lookup_plain hplain]
  rfl

theorem run_request (u : Update κ) (r : Keyed κ) :
    (u.run r).state.plain = (u.request.run r.plain).state := by
  cases u with
  | set key v =>
      rw [Update.request, Resolver.Request.run, bind_pure_state, ← set_plain hplain]
      rfl
  | restore es =>
      rw [Update.request, Resolver.Request.run, bind_pure_state, Resolver.restoreFrom,
        ← restore_plain hplain]
      rfl

theorem updated_plain (r : Keyed κ) (us : List (Update κ)) :
    (r.updated us).plain = r.plain.asked (us.map Update.request) := by
  induction us generalizing r with
  | nil => rfl
  | cons u us ih =>
      refine (ih (u.run r).state).trans ?_
      rw [run_request hplain]
      rfl

/-- **Where keys are found by their values only, a resolver answers what the one whose keys are
values answers**, whatever was set and restored in both. -/
theorem run_plain (r : Keyed κ) (us : List (Update κ)) (key : κ) (absent : Value) :
    (contains key (r.updated us)).plain =
        Resolver.contains (value key) (r.plain.asked (us.map Update.request)) ∧
      (has key (r.updated us)).plain =
        Resolver.has (value key) (r.plain.asked (us.map Update.request)) ∧
      (lookup key (r.updated us)).plain =
        Resolver.lookup (value key) (r.plain.asked (us.map Update.request)) ∧
      (get key absent (r.updated us)).plain =
        Resolver.get (value key) absent (r.plain.asked (us.map Update.request)) ∧
      (r.plain.asked (us.map Update.request)).keys = (r.updated us).keys.map value := by
  rw [← updated_plain hplain]
  exact ⟨contains_plain hplain _ key, has_plain hplain _ key, lookup_plain hplain _ key,
    get_plain hplain _ key absent, keys_plain hplain _⟩

end Validator

end Keyed

end Plain

/-! ### What tables go by -/

/-- What a table goes by: a key is found by itself, and what is the same as a key that can be looked
for is the same as what that is the same as. -/
structure KeyObject.Lawful (κ : Type) [KeyObject κ] : Prop where
  refl : ∀ k : κ, same k k = true
  trans : ∀ {k l m : κ}, (value k).unhashable? = none → same k l = true → same l m = true →
    same k m = true

theorem KeyObject.lawful_numbered (values : Nat → Value) : Lawful (Numbered values) where
  refl k := Bool.or_eq_true_iff.2 (.inl (beq_self_eq_true k.number))
  trans {k l m} hk hkl hlm := by
    simp only [same, Bool.or_eq_true, beq_iff_eq] at hkl hlm ⊢
    rcases hkl with hkl | hkl
    · rwa [hkl]
    · rcases hlm with hlm | hlm
      · exact .inr (hlm ▸ hkl)
      · exact .inr (Value.equals_trans hk hkl hlm)

/-- Where all numbers have values that are equal to themselves, an object is found by its value. -/
theorem Numbered.same_eq_equals {values : Nat → Value}
    (h : ∀ n, (values n).equals (values n) = true) (k l : Numbered values) :
    same k l = (value k).equals (value l) := by
  change (k.number == l.number || (values k.number).equals (values l.number)) =
    (values k.number).equals (values l.number)
  by_cases hkl : k.number = l.number
  · rw [hkl, h, Bool.or_true]
  · rw [beq_false_of_ne hkl, Bool.false_or]

namespace Keyed

variable {κ : Type} [KeyObject κ] {r : Keyed κ} {key : κ}

/-! ### States that setting and restoring leave -/

/-- A table has only keys that can be looked for. -/
def Hashable (es : List (κ × Value)) : Prop := ∀ k ∈ es.map Prod.fst, (value k).unhashable? = none

/-- Both tiers have only keys that can be looked for. -/
structure Sound (r : Keyed κ) : Prop where
  overlay : Hashable r.overlay
  environment : Hashable r.environment

/-- What is restored is a table, whose keys can be looked for. -/
def Update.Mapped : Update κ → Prop
  | set _ _ => True
  | restore es => Hashable es

theorem hashable_nil : Hashable ([] : List (κ × Value)) :=
  fun _ hk => absurd hk List.not_mem_nil

theorem Hashable.put {es : List (κ × Value)} (h : Hashable es)
    (hkey : (value key).unhashable? = none) (v : Value) : Hashable (put es key v) := by
  induction es with
  | nil => exact List.forall_mem_singleton.2 hkey
  | cons e es ih =>
      obtain ⟨he, hes⟩ := List.forall_mem_cons.1 h
      rw [Keyed.put]
      split_ifs
      · exact List.forall_mem_cons.2 ⟨he, hes⟩
      · exact List.forall_mem_cons.2 ⟨he, ih hes⟩

theorem Hashable.putAll {es fs : List (κ × Value)} (h : Hashable es) (hf : Hashable fs) :
    Hashable (putAll es fs) := by
  induction fs generalizing es with
  | nil => exact h
  | cons f fs ih =>
      obtain ⟨hkey, hrest⟩ := List.forall_mem_cons.1 hf
      exact ih (h.put hkey f.2) hrest

theorem state_set (r : Keyed κ) (key : κ) (v : Value) : (set key v r).state =
    if (value key).unhashable? = none then { r with overlay := put r.overlay key v } else r := by
  simp only [set, bind_apply, lift_apply, Resolver.checkKey]
  cases (value key).unhashable? <;> rfl

/-- No update gives a tier a key that cannot be looked for. -/
theorem sound_run {u : Update κ} (hu : u.Mapped) (h : r.Sound) : (u.run r).state.Sound := by
  cases u with
  | set key v =>
      rw [Update.run, state_set]
      split_ifs with hkey
      · exact ⟨h.overlay.put hkey v, h.environment⟩
      · exact h
  | restore es => exact ⟨hashable_nil.putAll hu, h.environment⟩

theorem sound_updated (h : r.Sound) {us : List (Update κ)} (hus : ∀ u ∈ us, u.Mapped) :
    (r.updated us).Sound := by
  induction us generalizing r with
  | nil => exact h
  | cons u us ih =>
      obtain ⟨hu, hus⟩ := List.forall_mem_cons.1 hus
      exact ih (sound_run hu h) hus

/-! ### What the list of keys says -/

/-- A key that is the same as the given one is listed. -/
def lists (r : Keyed κ) (key : κ) : Bool := r.keys.any fun k => same k key

theorem lists_iff : r.lists key = true ↔ ∃ k ∈ r.keys, same k key = true := List.any_eq_true

theorem isSome_find_iff {es : List (κ × Value)} :
    (find es key).isSome = true ↔ ∃ k ∈ es.map Prod.fst, same k key = true := by
  rw [find, Option.isSome_map, List.find?_isSome]
  simp only [List.mem_map, Prod.exists]
  constructor
  · rintro ⟨k, v, hmem, hsame⟩
    exact ⟨k, ⟨k, v, hmem, rfl⟩, hsame⟩
  · rintro ⟨k, ⟨k, v, hmem, rfl⟩, hsame⟩
    exact ⟨k, v, hmem, hsame⟩

theorem mem_keys_iff {k : κ} : k ∈ r.keys ↔ k ∈ r.overlay.map Prod.fst ∨
    k ∈ r.environment.map Prod.fst ∧ (find r.overlay k).isSome = false := by
  rw [keys, List.mem_append, List.mem_filter, Bool.not_eq_true']

theorem unhashable?_of_mem_keys (hr : r.Sound) {k : κ} (hk : k ∈ r.keys) :
    (value k).unhashable? = none := by
  obtain hk | ⟨hk, -⟩ := mem_keys_iff.1 hk
  · exact hr.overlay k hk
  · exact hr.environment k hk

/-- **The list of keys says what the tiers say.**  A key of the environment is left out only if the
overlay has one that is the same, and so the same as whatever it is the same as. -/
theorem lists_eq_holds (hlaw : KeyObject.Lawful κ) (hr : r.Sound) (key : κ) :
    r.lists key = r.holds key := by
  rw [Bool.eq_iff_iff, lists_iff, holds, Bool.or_eq_true, isSome_find_iff, isSome_find_iff]
  constructor
  · rintro ⟨k, hk, hsame⟩
    obtain hk | ⟨hk, -⟩ := mem_keys_iff.1 hk
    · exact .inl ⟨k, hk, hsame⟩
    · exact .inr ⟨k, hk, hsame⟩
  · rintro (⟨k, hk, hsame⟩ | ⟨k, hk, hsame⟩)
    · exact ⟨k, mem_keys_iff.2 (.inl hk), hsame⟩
    · by_cases hc : (find r.overlay k).isSome = true
      · obtain ⟨o, ho, hfirst⟩ := isSome_find_iff.1 hc
        exact ⟨o, mem_keys_iff.2 (.inl ho), hlaw.trans (hr.overlay o ho) hfirst hsame⟩
      · exact ⟨k, mem_keys_iff.2 (.inr ⟨hk, Bool.eq_false_iff.2 hc⟩), hsame⟩

/-! ### What asking for a key says -/

theorem contains_result (hkey : (value key).unhashable? = none) :
    (contains key r).result = .ok (r.holds key) := by
  rw [contains, bind_apply, lift_apply, Resolver.checkKey_eq_ok hkey]
  rfl

theorem has_result (hkey : (value key).unhashable? = none) :
    (has key r).result = .ok ((value key).text?.isSome && r.holds key) := by
  rw [has]
  cases hv : value key with
  | text t => exact contains_result hkey
  | _ => rfl

section Validator

variable [Validator]

theorem lookup_result (key : κ) : (lookup key r).result =
    (Resolver.checkKey (value key)).bind fun _ =>
      (Resolver.nameOf (value key)).map (r.answer key) := by
  simp only [lookup, bind_apply, lift_apply]
  cases Resolver.checkKey (value key) with
  | error failure => rfl
  | ok u => cases Resolver.nameOf (value key) <;> rfl

theorem get_result (key : κ) (absent : Value) : (get key absent r).result =
    (lookup key r).result.map fun l => if l.found then l.value else absent :=
  congrArg Outcome.result (bind_pure_apply _ _ r)

/-- What was looked up was found if it is there. -/
theorem found_of_lookup {l : Lookup} (h : (lookup key r).result = .ok l) :
    l.found = r.holds key := by
  rw [lookup_result] at h
  obtain ⟨u, -, h⟩ := bind_eq_ok_iff.1 h
  obtain ⟨name, -, rfl⟩ := map_eq_ok_iff.1 h
  rw [holds, answer, find?]
  cases find r.overlay key with
  | some v => rfl
  | none => cases find r.environment key <;> rfl

/-- What can be looked for can be looked up where it is read as a text. -/
theorem exists_lookup_iff (hkey : (value key).unhashable? = none) :
    (∃ l, (lookup key r).result = .ok l) ↔ ∃ t, Validator.text (value key) = .ok t := by
  have hname : (∃ name, Resolver.nameOf (value key) = .ok name) ↔
      ∃ t, Validator.text (value key) = .ok t := by
    rw [Resolver.nameOf]
    cases Validator.text (value key) <;> simp
  rw [← hname, lookup_result, Resolver.checkKey_eq_ok hkey]
  cases Resolver.nameOf (value key) <;> simp [Except.bind, Except.map]

/-- Where a key cannot be looked up, it is what is complained of. -/
theorem lookup_error (hkey : (value key).unhashable? = none) {failure : Failure}
    (h : (lookup key r).result = .error failure) : ∃ complaint,
      failure = .invalidRecord ⟨Lookup.title, [⟨some "key", complaint, value key⟩]⟩ := by
  rw [lookup_result, Resolver.checkKey_eq_ok hkey] at h
  have hname : Resolver.nameOf (value key) = .error failure := map_eq_error_iff.1 h
  rw [Resolver.nameOf] at hname
  cases hread : Validator.text (value key) with
  | ok name => simp [hread] at hname
  | error complaint =>
      rw [hread] at hname
      exact ⟨complaint, (Except.error.inj hname).symm⟩

/-- **Whether a key is there is answered alike.**  In every state that setting and restoring leave,
for every key that can be looked for, the tiers hold it if a key that is the same is listed; a text
is then the name of a variable, and nothing else ever is.  It can be looked up and got exactly where
the library for records reads it as a text, as it does every text, and then it is found if it is
listed.  Otherwise the look-up complains of the key, and of nothing else, whatever the tiers hold.
What is listed can be looked for, and is there. -/
theorem presence_asked (hlaw : KeyObject.Lawful κ) (hlawful : Validator.Lawful) (hr : r.Sound)
    {us : List (Update κ)} (hus : ∀ u ∈ us, u.Mapped) (hkey : (value key).unhashable? = none)
    (absent : Value) :
    (contains key (r.updated us)).result = .ok ((r.updated us).lists key) ∧
      (has key (r.updated us)).result =
        .ok ((value key).text?.isSome && (r.updated us).lists key) ∧
      (∀ l, (lookup key (r.updated us)).result = .ok l → l.found = (r.updated us).lists key ∧
        (get key absent (r.updated us)).result = .ok (if l.found then l.value else absent)) ∧
      ((∃ l, (lookup key (r.updated us)).result = .ok l) ↔
        ∃ t, Validator.text (value key) = .ok t) ∧
      ((∃ v, (get key absent (r.updated us)).result = .ok v) ↔
        ∃ t, Validator.text (value key) = .ok t) ∧
      (∀ t, (value key).text? = some t → Validator.text (value key) = .ok t) ∧
      (∀ failure, (lookup key (r.updated us)).result = .error failure → ∃ complaint,
        failure = .invalidRecord ⟨Lookup.title, [⟨some "key", complaint, value key⟩]⟩) ∧
      ∀ k ∈ (r.updated us).keys,
        (value k).unhashable? = none ∧ (contains k (r.updated us)).result = .ok true := by
  have hs := sound_updated hr hus
  generalize r.updated us = s at hs
  have hlists := lists_eq_holds hlaw hs key
  refine ⟨?_, ?_, fun l hl => ⟨?_, ?_⟩, exists_lookup_iff hkey, ?_, ?_, fun _ => lookup_error hkey,
    fun k hk => ?_⟩
  · rw [hlists, contains_result hkey]
  · rw [hlists, has_result hkey]
  · rw [hlists, found_of_lookup hl]
  · rw [get_result, hl]
    rfl
  · rw [← exists_lookup_iff (r := s) hkey, get_result]
    cases (lookup key s).result <;> simp [Except.map]
  · intro t ht
    cases hv : value key with
    | text u =>
        rw [hv] at ht
        obtain rfl := Option.some.inj ht
        exact hlawful.text_text u
    | _ =>
        rw [hv] at ht
        exact absurd ht (by simp [Value.text?])
  · have hhash := unhashable?_of_mem_keys hs hk
    refine ⟨hhash, ?_⟩
    rw [contains_result hhash, ← lists_eq_holds hlaw hs, lists_iff.2 ⟨k, hk, hlaw.refl k⟩]

end Validator

/-- Two objects that are not numbers, a name, a number, and a truth value. -/
def sundry (n : Nat) : Value :=
  [.float .nan, .float .nan, .text "host", .int 1, .bool true].getD n .none

/-- One variable in the environment. -/
def hosted : Keyed (Numbered sundry) := ⟨[], [(⟨2⟩, .text "h")]⟩

/-- The number is written under the truth value, and one of the two that are no numbers is. -/
def writing : List (Update (Numbered sundry)) :=
  [.restore [(⟨4⟩, .text "a")], .set ⟨3⟩ (.text "b"), .set ⟨0⟩ .none]

/-- A truth value, and else a number. -/
def usual (n : Nat) : Value := if n = 0 then .bool true else .int 1

/-- The number is there, under the truth value, and is no name; the variable is found; and of the
two that are no numbers the one that was written is there.  Where the keys are values, too, the
number is there that was written under the truth value. -/
theorem presence_asked_mixed :
    (contains ⟨3⟩ (hosted.updated writing)).result = .ok true ∧
      (has ⟨3⟩ (hosted.updated writing)).result = .ok false ∧
      (∃ l, (lookup ⟨2⟩ (hosted.updated writing)).result = .ok l ∧ l.found = true) ∧
      (contains ⟨0⟩ (hosted.updated writing)).result = .ok true ∧
      (contains ⟨1⟩ (hosted.updated writing)).result = .ok false ∧
      (Resolver.contains (.int 1)
        (Resolver.asked ⟨[], []⟩ [.set (.bool true) (.text "b")])).result = .ok true := by
  have hlaw := KeyObject.lawful_numbered sundry
  have hr : hosted.Sound := ⟨hashable_nil, List.forall_mem_singleton.2 rfl⟩
  have hus : ∀ u ∈ writing, u.Mapped :=
    List.forall_mem_cons.2 ⟨List.forall_mem_singleton.2 rfl, List.forall_mem_cons.2
      ⟨trivial, List.forall_mem_singleton.2 trivial⟩⟩
  have hkey : ∀ n < 5, (value (⟨n⟩ : Numbered sundry)).unhashable? = none := by decide
  have hlists : ((hosted.updated writing).lists ⟨3⟩ = true ∧
      (hosted.updated writing).lists ⟨2⟩ = true) ∧ (hosted.updated writing).lists ⟨0⟩ = true ∧
        (hosted.updated writing).lists ⟨1⟩ = false := by decide +kernel
  obtain ⟨⟨hthree, htwo⟩, hzero, hone⟩ := hlists
  obtain ⟨hnumber, hname, -⟩ := presence_asked hlaw Validator.lawful_standard hr hus
    (hkey 3 (by decide)) .none
  obtain ⟨-, -, hfound, hlookup, -, htext, -⟩ := presence_asked hlaw Validator.lawful_standard hr
    hus (hkey 2 (by decide)) .none
  obtain ⟨hsame, -⟩ := presence_asked hlaw Validator.lawful_standard hr hus
    (hkey 0 (by decide)) .none
  obtain ⟨hother, -⟩ := presence_asked hlaw Validator.lawful_standard hr hus
    (hkey 1 (by decide)) .none
  obtain ⟨l, hl⟩ := hlookup.2 ⟨_, htext _ rfl⟩
  rw [hthree] at hnumber
  refine ⟨hnumber, hname, ⟨l, hl, (hfound l hl).1.trans htwo⟩, hzero ▸ hsame, hone ▸ hother, ?_⟩
  -- the resolver whose keys are values is that of objects that are found by their values
  have husual : ∀ n, (usual n).equals (usual n) = true := fun n => by
    rw [usual]
    split_ifs <;> decide +kernel
  have hplain := Numbered.same_eq_equals husual
  have hempty : Keyed.Sound (⟨[], []⟩ : Keyed (Numbered usual)) := ⟨hashable_nil, hashable_nil⟩
  have hset : ∀ u ∈ [Update.set (⟨0⟩ : Numbered usual) (.text "b")], u.Mapped :=
    List.forall_mem_singleton.2 trivial
  have hone : (value (⟨1⟩ : Numbered usual)).unhashable? = none := rfl
  obtain ⟨hwritten, -⟩ := presence_asked (KeyObject.lawful_numbered usual)
    Validator.lawful_standard hempty hset hone .none
  have hlisted : (updated ⟨[], []⟩ [Update.set (⟨0⟩ : Numbered usual) (.text "b")]).lists ⟨1⟩ =
      true := by decide +kernel
  rw [hlisted] at hwritten
  obtain ⟨hcontains, -⟩ := run_plain hplain ⟨[], []⟩ [.set ⟨0⟩ (.text "b")] ⟨1⟩ .none
  exact (congrArg Outcome.result hcontains).symm.trans hwritten

end Keyed

namespace Resolver

/-- A number that is set is there, and is no name and cannot be looked up. -/
theorem presence_asked_unnamed :
    (contains (.int 1) (set (.int 1) (.text "a") ⟨[], []⟩).state).result = .ok true ∧
      (set (.int 1) (.text "a") ⟨[], []⟩).state.keys = [.int 1] ∧
      (has (.int 1) (set (.int 1) (.text "a") ⟨[], []⟩).state).result = .ok false ∧
      (lookup (.int 1) (set (.int 1) (.text "a") ⟨[], []⟩).state).result =
        .error (.invalidRecord ⟨Lookup.title, [⟨some "key", .textType, .int 1⟩]⟩) := by
  have hholds : (set (.int 1) (.text "a") ⟨[], []⟩).state.holds (.int 1) = true := by
    decide +kernel
  refine ⟨?_, rfl, rfl, rfl⟩
  rw [contains_result rfl, hholds]

end Resolver

end Tiered
