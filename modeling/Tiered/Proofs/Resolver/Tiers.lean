import Mathlib
import Tiered.Proofs.Resolver.Outcome
import Tiered.Proofs.Value.Table

/-!
# Tiers — a resolver as two ordered maps of variables

Variables are different names with values, in order.  Where names are set, one after the other, a
name that is there keeps its place and a new one goes last, and each has the value that it was given
last (`Variables.updated`).  A resolver whose tiers hold variables goes on as two such maps: its
overlay is what it was restored from last, updated by what was set since, its environment stays,
and whatever it is asked it answers from the two (`tiers_run`).
-/

namespace Tiered

section EraseDups

variable {α : Type} [BEq α] [LawfulBEq α]

/-- One more value goes last unless it is there. -/
theorem eraseDups_concat [DecidableEq α] (xs : List α) (x : α) :
    (xs ++ [x]).eraseDups = if x ∈ xs then xs.eraseDups else xs.eraseDups ++ [x] := by
  rw [List.eraseDups_append]
  by_cases h : x ∈ xs <;> simp [h, List.removeAll, List.eraseDups_cons]

theorem nodup_eraseDups [DecidableEq α] (xs : List α) : xs.eraseDups.Nodup := by
  induction xs using List.reverseRecOn with
  | nil => exact List.nodup_nil
  | append_singleton xs x ih =>
      rw [eraseDups_concat]
      split_ifs with h
      · exact ih
      · exact ih.append (List.nodup_singleton x) (by simpa using h)

theorem eraseDups_of_nodup [DecidableEq α] {xs : List α} (h : xs.Nodup) : xs.eraseDups = xs := by
  induction xs using List.reverseRecOn with
  | nil => rfl
  | append_singleton xs x ih =>
      obtain ⟨hxs, -, hx⟩ := List.nodup_append.1 h
      have hnew : x ∉ xs := fun hmem => hx x hmem x (List.mem_singleton_self x) rfl
      rw [eraseDups_concat, if_neg hnew, ih hxs]

/-- What is found among values that are given by their names. -/
theorem lookup_map_mk [DecidableEq α] {β : Type} (f : α → β) (xs : List α) (x : α) :
    (xs.map fun y => (y, f y)).lookup x = if x ∈ xs then some (f x) else none := by
  induction xs with
  | nil => rfl
  | cons y ys ih =>
      rw [List.map_cons, List.lookup_cons, ih]
      by_cases h : x = y
      · subst h
        simp
      · simp [h, beq_false_of_ne h]

end EraseDups

namespace Entries

/-- A table under different texts is made of its keys and what is found under them. -/
theorem eq_map_keys {es : Entries} (hes : es.TextKeys) (hd : es.Distinct) :
    es = (keys es).map fun k => (k, (es.get? k).getD .none) := by
  have hentry : ∀ e ∈ es, (e.1, (es.get? e.1).getD .none) = e := by
    rintro ⟨k, v⟩ he
    obtain ⟨name, rfl⟩ := hes _ he
    rw [get?_of_mem hd he]
    rfl
  rw [keys, List.map_map]
  exact ((List.map_congr_left hentry).trans (List.map_id es)).symm

/-- Tables under different texts are equal if they have the same keys in order, and the same under
each of them. -/
theorem ext_texts {es fs : Entries} (hes : es.TextKeys) (hfs : fs.TextKeys) (hd : es.Distinct)
    (hkeys : keys es = keys fs)
    (hget : ∀ name : Text, es.get? (.text name) = fs.get? (.text name)) : es = fs := by
  have hd' : fs.Distinct := by
    rw [distinct_iff_keys] at hd ⊢
    rwa [← hkeys]
  rw [eq_map_keys hes hd, eq_map_keys hfs hd', hkeys]
  refine List.map_congr_left fun k hk => ?_
  obtain ⟨f, hf, rfl⟩ := List.mem_map.1 hk
  obtain ⟨name, hname⟩ := hfs f hf
  rw [hname, hget]

end Entries

/-! ### Variables -/

/-- Different names with values, in order. -/
structure Variables where
  pairs : List (Text × Value)
  nodup : (pairs.map Prod.fst).Nodup

namespace Variables

/-- The names in order. -/
def names (vs : Variables) : List Text := vs.pairs.map Prod.fst

/-- The value of a name. -/
def value? (vs : Variables) (name : Text) : Option Value := vs.pairs.lookup name

/-- The variables as a table. -/
def toEntries (vs : Variables) : Entries := vs.pairs.map fun p => (.text p.1, p.2)

/-- The value that a name was given last. -/
def given? (name : Text) (pairs : List (Text × Value)) : Option Value :=
  (pairs.filter fun p => p.1 = name).getLast?.map Prod.snd

/-- The variables after names were set: every name once, where it comes first, with the value that
it was given last. -/
def updated (vs : Variables) (pairs : List (Text × Value)) : Variables where
  pairs := (vs.names ++ pairs.map Prod.fst).eraseDups.map fun name =>
    (name, ((given? name pairs).or (vs.value? name)).getD .none)
  nodup := by
    rw [List.map_map]
    exact (List.map_id _).symm ▸ nodup_eraseDups (vs.names ++ pairs.map Prod.fst)

variable {vs : Variables} {name : Text}

theorem textKeys_toEntries (vs : Variables) : vs.toEntries.TextKeys := by
  intro e he
  obtain ⟨p, -, rfl⟩ := List.mem_map.1 he
  exact ⟨p.1, rfl⟩

theorem keys_toEntries (vs : Variables) : vs.toEntries.keys = vs.names.map .text := by
  rw [toEntries, Entries.keys, names, List.map_map, List.map_map]
  rfl

theorem distinct_toEntries (vs : Variables) : vs.toEntries.Distinct := by
  rw [Entries.distinct_iff_keys, keys_toEntries, List.pairwise_map]
  refine vs.nodup.imp fun hne => ?_
  rw [Value.equals_text]
  exact beq_false_of_ne hne

theorem get?_toEntries (vs : Variables) (name : Text) :
    vs.toEntries.get? (.text name) = vs.value? name := by
  rw [toEntries, value?]
  induction vs.pairs with
  | nil => rfl
  | cons p ps ih =>
      rw [List.map_cons, Entries.get?_cons, ih, Value.equals_text, List.lookup_cons]
      by_cases h : p.1 = name
      · subst h
        simp
      · simp [beq_false_of_ne h, beq_false_of_ne (Ne.symm h)]

/-- **Variables are the tables under different texts.** -/
theorem exists_toEntries_iff {es : Entries} :
    (∃ vs : Variables, vs.toEntries = es) ↔ es.TextKeys ∧ es.Distinct := by
  constructor
  · rintro ⟨vs, rfl⟩
    exact ⟨vs.textKeys_toEntries, vs.distinct_toEntries⟩
  · rintro ⟨htexts, hdistinct⟩
    choose! name hname using htexts
    have hentries : (es.map fun e => (name e, e.2)).map (fun p => (Value.text p.1, p.2)) = es := by
      rw [List.map_map]
      refine (List.map_congr_left fun e he => ?_).trans (List.map_id es)
      exact Prod.ext (hname e he).symm rfl
    refine ⟨⟨es.map fun e => (name e, e.2), ?_⟩, hentries⟩
    rw [List.map_map, List.Nodup, List.pairwise_map]
    refine hdistinct.imp_of_mem fun {e f} he hf hne hsame => ?_
    rw [hname e he, hname f hf, Value.equals_text] at hne
    exact beq_eq_false_iff_ne.1 hne hsame

/-! ### What was set -/

theorem given?_concat (name key : Text) (v : Value) (pairs : List (Text × Value)) :
    given? name (pairs ++ [(key, v)]) = if key = name then some v else given? name pairs := by
  rw [given?, List.filter_append]
  by_cases h : key = name <;> simp [h, given?]

theorem given?_eq_none_iff {name : Text} {pairs : List (Text × Value)} :
    given? name pairs = none ↔ name ∉ pairs.map Prod.fst := by
  rw [given?, Option.map_eq_none_iff, List.getLast?_eq_none_iff, List.filter_eq_nil_iff,
    List.mem_map]
  simp only [decide_eq_true_eq, not_exists, not_and]

theorem value?_eq_none_iff {vs : Variables} {name : Text} :
    vs.value? name = none ↔ name ∉ vs.names := by
  rw [← get?_toEntries, Entries.get?_eq_none_iff vs.textKeys_toEntries, keys_toEntries,
    List.mem_map_of_injective fun _ _ => Value.text.inj]

theorem names_updated (vs : Variables) (pairs : List (Text × Value)) :
    (vs.updated pairs).names = (vs.names ++ pairs.map Prod.fst).eraseDups := by
  rw [names, updated, List.map_map]
  exact List.map_id _

theorem value?_updated (vs : Variables) (pairs : List (Text × Value)) (name : Text) :
    (vs.updated pairs).value? name = (given? name pairs).or (vs.value? name) := by
  have hmem : name ∈ (vs.names ++ pairs.map Prod.fst).eraseDups ↔
      (given? name pairs).or (vs.value? name) ≠ none := by
    rw [List.mem_eraseDups, List.mem_append, Ne, Option.or_eq_none_iff, given?_eq_none_iff,
      value?_eq_none_iff]
    tauto
  rw [value?, updated, lookup_map_mk]
  cases h : (given? name pairs).or (vs.value? name) with
  | none => rw [if_neg fun hin => hmem.1 hin h]
  | some v => rw [if_pos (hmem.2 (by simp [h]))]; rfl

/-- Nothing is updated where nothing was set. -/
theorem toEntries_updated_nil (vs : Variables) : (vs.updated []).toEntries = vs.toEntries := by
  refine Entries.ext_texts (textKeys_toEntries _) (textKeys_toEntries _) (distinct_toEntries _) ?_
    fun name => ?_
  · rw [keys_toEntries, keys_toEntries, names_updated, List.map_nil, List.append_nil,
      names, eraseDups_of_nodup vs.nodup]
  · rw [get?_toEntries, get?_toEntries, value?_updated]
    rfl

/-- **One more name that is set is written into the table.** -/
theorem toEntries_updated_concat (vs : Variables) (pairs : List (Text × Value)) (key : Text)
    (v : Value) : (vs.updated (pairs ++ [(key, v)])).toEntries =
      (vs.updated pairs).toEntries.put (.text key) v := by
  have htexts := textKeys_toEntries (vs.updated pairs)
  refine Entries.ext_texts (textKeys_toEntries _) (Entries.textKeys_put htexts key v)
    (distinct_toEntries _) ?_ fun name => ?_
  · rw [Entries.keys_put, keys_toEntries, keys_toEntries, names_updated, names_updated,
      List.map_append, List.map_singleton, ← List.append_assoc, eraseDups_concat]
    have hin : Entries.contains (vs.updated pairs).toEntries (.text key) = true ↔
        key ∈ vs.names ++ pairs.map Prod.fst := by
      rw [Entries.contains_text_iff htexts, keys_toEntries, names_updated,
        List.mem_map_of_injective fun _ _ => Value.text.inj, List.mem_eraseDups]
    by_cases h : key ∈ vs.names ++ pairs.map Prod.fst
    · rw [if_pos h, if_pos (hin.2 h)]
    · rw [if_neg h, if_neg fun hc => h (hin.1 hc), List.map_append, List.map_singleton]
  · rw [get?_toEntries, value?_updated, given?_concat]
    split_ifs with h
    · subst h
      rw [Entries.get?_put_self]
      rfl
    · rw [Entries.get?_put_of_ne htexts h, get?_toEntries, value?_updated]

end Variables

/-! ### Two tiers -/

/-- Variables in two tiers. -/
structure Tiers where
  overlay : Variables
  environment : Variables

namespace Tiers

/-- The resolver with these tiers. -/
def resolver (t : Tiers) : Resolver := ⟨t.overlay.toEntries, t.environment.toEntries⟩

/-- What is found under a name: what the overlay has, or else what the environment has. -/
def find (t : Tiers) (name : Text) : Lookup :=
  match t.overlay.value? name, t.environment.value? name with
  | some v, _ => ⟨name, true, v, .snapshot⟩
  | none, some v => ⟨name, true, v, .environment⟩
  | none, none => ⟨name, false, .none, .none⟩

/-- The value under a name. -/
def value? (t : Tiers) (name : Text) : Option Value :=
  (t.overlay.value? name).or (t.environment.value? name)

/-- The names of the overlay, and then those that only the environment has. -/
def names (t : Tiers) : List Text :=
  t.overlay.names ++ t.environment.names.filter fun name => name ∉ t.overlay.names

theorem nodup_names (t : Tiers) : t.names.Nodup := by
  refine t.overlay.nodup.append (t.environment.nodup.filter _) fun name hname hin => ?_
  exact of_decide_eq_true (List.mem_filter.1 hin).2 hname

variable (t : Tiers) (name : Text)

theorem answer_resolver : t.resolver.answer (.text name) name = t.find name := by
  rw [Resolver.answer, Resolver.find?, find, resolver, Variables.get?_toEntries,
    Variables.get?_toEntries]
  cases t.overlay.value? name with
  | some v => rfl
  | none => cases t.environment.value? name <;> rfl

/-- Looking a name up says what is found under it. -/
theorem lookup_resolver : (Resolver.lookup (.text name) t.resolver).result = .ok (t.find name) := by
  rw [Resolver.lookup_text_result, ← answer_resolver]
  rfl

theorem get_resolver (absent : Value) :
    (Resolver.get (.text name) absent t.resolver).result = .ok ((t.value? name).getD absent) := by
  rw [Resolver.get_eq, lookup_resolver, find, value?]
  cases t.overlay.value? name with
  | some v => rfl
  | none => cases t.environment.value? name <;> rfl

theorem contains_resolver :
    (Resolver.contains (.text name) t.resolver).result = .ok (t.find name).found := by
  have hholds : t.resolver.holds (.text name) = (t.find name).found := by
    rw [Resolver.holds, find, resolver, Entries.contains, Entries.contains,
      Variables.get?_toEntries, Variables.get?_toEntries]
    cases t.overlay.value? name with
    | some v => rfl
    | none => cases t.environment.value? name <;> rfl
  rw [← hholds]
  rfl

theorem keys_resolver : t.resolver.keys = t.names.map .text := by
  rw [Resolver.keys, resolver, Variables.keys_toEntries, Variables.keys_toEntries, names,
    List.map_append, List.filter_map]
  congr 2
  refine List.filter_congr fun name _ => ?_
  have hin : Entries.contains t.overlay.toEntries (.text name) = true ↔ name ∈ t.overlay.names := by
    rw [Entries.contains_text_iff t.overlay.textKeys_toEntries, Variables.keys_toEntries,
      List.mem_map_of_injective fun _ _ => Value.text.inj]
  by_cases h : name ∈ t.overlay.names
  · simp [h, hin.2 h]
  · simp [h, Bool.eq_false_iff.2 (hin.not.2 h)]

end Tiers

/-! ### A run of updates -/

namespace Resolver

/-- A change of the overlay: a name is set, or all is restored from variables. -/
inductive Update where
  | set (name : Text) (v : Value)
  | restore (vs : Variables)

namespace Update

/-- What an update does to a resolver. -/
def run : Update → Action Resolver Unit
  | set name v => Resolver.set (.text name) v
  | restore vs => Resolver.restoreFrom (.table vs.toEntries)

/-- Updates one after the other; one that fails would be the last. -/
def runAll : List Update → Action Resolver Unit
  | [] => pure ()
  | u :: us => do
    u.run
    runAll us

/-- The name that is set, with its value. -/
def pair? : Update → Option (Text × Value)
  | set name v => some (name, v)
  | restore _ => none

/-- The variables that are restored. -/
def restored? : Update → Option Variables
  | set _ _ => none
  | restore vs => some vs

/-- What the overlay was restored from last, or what it was before. -/
def base (before : Variables) (us : List Update) : Variables :=
  (us.filterMap restored?).getLast?.getD before

/-- What was set since the last restoring, in order. -/
def since (us : List Update) : List (Text × Value) :=
  (us.rtakeWhile fun u => u.pair?.isSome).filterMap pair?

end Update

end Resolver

namespace Tiers

open Resolver

/-- The tiers after updates: the overlay is what it was restored from last, updated by what was set
since. -/
def after (t : Tiers) (us : List Update) : Tiers :=
  { t with overlay := (Update.base t.overlay us).updated (Update.since us) }

theorem resolver_after_nil (t : Tiers) : (t.after []).resolver = t.resolver :=
  congrArg (Resolver.mk · _) (Variables.toEntries_updated_nil _)

/-- **An update of the tiers is one of the resolver.** -/
theorem run_resolver_after (t : Tiers) (us : List Update) (u : Update) :
    (u.run (t.after us).resolver).state = (t.after (us ++ [u])).resolver := by
  cases u with
  | set name v =>
      have hafter : (t.after (us ++ [.set name v])).overlay =
          (Update.base t.overlay us).updated (Update.since us ++ [(name, v)]) := by
        simp [after, Update.base, Update.since, Update.restored?, Update.pair?]
      refine congrArg (Resolver.mk · t.environment.toEntries) ?_
      rw [hafter, Variables.toEntries_updated_concat]
      rfl
  | restore vs =>
      have hafter : (t.after (us ++ [.restore vs])).overlay = vs.updated [] := by
        simp [after, Update.base, Update.since, Update.restored?, Update.pair?]
      refine congrArg (Resolver.mk · t.environment.toEntries) ?_
      rw [hafter, Variables.toEntries_updated_nil]
      exact Entries.putAll_nil vs.distinct_toEntries

/-- Updates behind others leave what all of them leave. -/
theorem runAll_resolver_after (t : Tiers) (before us : List Update) :
    (Update.runAll us (t.after before).resolver).result = .ok () ∧
      (Update.runAll us (t.after before).resolver).state = (t.after (before ++ us)).resolver := by
  induction us generalizing before with
  | nil => rw [List.append_nil]; exact ⟨rfl, rfl⟩
  | cons u us ih =>
      have hresult : (u.run (t.after before).resolver).result = .ok () := by cases u <;> rfl
      have hrest := ih (before ++ [u])
      rw [← List.append_cons] at hrest
      rw [Update.runAll, Action.bind_apply, hresult, run_resolver_after]
      exact hrest

/-- **A resolver is an ordered map in two tiers.**  Where its tiers hold variables, every run of
updates works.  It leaves the environment, and as the overlay what was restored last, or the overlay
before, updated by what was set since.  Looking a name up then says what is found in the overlay, or
else in the environment, or that nothing is found, whatever the value is; getting it gives the same
value, or the given one; whether it is there is whether it is found; and the keys are the names of
the overlay in order and then those that only the environment has, no name twice. -/
theorem tiers_run (t : Tiers) (us : List Update) (name : Text) (absent : Value) :
    (Update.runAll us t.resolver).result = .ok () ∧
      (Update.runAll us t.resolver).state = (t.after us).resolver ∧
      (lookup (.text name) (t.after us).resolver).result = .ok ((t.after us).find name) ∧
      (get (.text name) absent (t.after us).resolver).result =
        .ok (((t.after us).value? name).getD absent) ∧
      (contains (.text name) (t.after us).resolver).result =
        .ok ((t.after us).find name).found ∧
      (has (.text name) (t.after us).resolver).result = .ok ((t.after us).find name).found ∧
      (t.after us).resolver.keys = (t.after us).names.map .text ∧
      (t.after us).names.Nodup := by
  obtain ⟨hresult, hstate⟩ := runAll_resolver_after t [] us
  rw [resolver_after_nil] at hresult hstate
  exact ⟨hresult, hstate, lookup_resolver _ name, get_resolver _ name absent,
    contains_resolver _ name, contains_resolver _ name, keys_resolver _, nodup_names _⟩

end Tiers

end Tiered
