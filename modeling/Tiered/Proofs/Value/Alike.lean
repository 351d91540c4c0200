import Mathlib
import Tiered.Proofs.Json.Written
import Tiered.Proofs.Value.Reread
import Tiered.Template.Render

/-!
# Alike — values that nothing that is told tells apart

Two values are alike if they have the same kind, a file can keep both or neither, and both or
neither have a JSON text and a text in a template.  Tables are alike if they have the same keys and
values that are alike under them; what is written into both, kept of both or left out of both is
alike again.
-/

namespace Tiered

/-- The values are of one kind, and they fare alike where they are kept, written and rendered.
Neither has a table with a key twice. -/
structure Value.Alike (v v' : Value) : Prop where
  kind : v.kind = v'.kind
  serializable : v.serializable = v'.serializable
  encodable : (Json.write .indented v).isOk = (Json.write .indented v').isOk
  renderable : (Template.valueText v).isOk = (Template.valueText v').isOk
  sound : v.Sound
  sound' : v'.Sound

namespace Value

variable {v v' : Value}

theorem Alike.refl (h : v.Sound) : v.Alike v := ⟨rfl, rfl, rfl, rfl, h, h⟩

theorem isOk_iff {ε α : Type} {x : Except ε α} : x.isOk = true ↔ ∃ a, x = .ok a := by
  cases x <;> simp [Except.isOk, Except.toBool]

/-- What a file can keep has a JSON text exactly when its whole numbers have one. -/
theorem encodable_iff (hv : v.serializable = true) :
    (Json.write .indented v).isOk = true ↔ v.Spellable :=
  isOk_iff.trans (Json.exists_writeAt_iff hv)

/-- What a file can keep has a text in a template if its whole numbers have one. -/
theorem renderable_of_spellable (hv : v.serializable = true) (h : v.Spellable) :
    (Template.valueText v).isOk = true := by
  obtain ⟨cs, hcs⟩ : ∃ cs, Json.write .spaced v = .ok cs := (Json.exists_writeAt_iff hv).2 h
  rw [Template.valueText.eq_def]
  split
  case h_4 n =>
    rw [Number.Decimal.text?_eq_some_iff.2 ⟨h, rfl⟩]
    rfl
  case h_6 => rw [hcs]; rfl
  all_goals rfl

/-- Of values of one kind that a file can keep, what comes back is of one kind, too. -/
theorem kind_reread (hv : v.serializable = true) :
    v.reread.kind = if v.kind = "tuple" then "list" else v.kind := by
  cases v <;> simp_all [Value.reread, kind, Value.serializable]

/-- The whole numbers of both have a text, or those of neither. -/
theorem Alike.spellable_iff (h : v.Alike v') (hv : v.serializable = true) :
    v.Spellable ↔ v'.Spellable := by
  rw [← encodable_iff hv, ← encodable_iff (h.serializable ▸ hv), h.encodable]

/-- **What comes back of values that are alike is alike.** -/
theorem Alike.reread (h : v.Alike v') (hv : v.serializable = true) (hs : v.Spellable) :
    v.reread.Alike v'.reread := by
  have hv' : v'.serializable = true := h.serializable ▸ hv
  have hs' : v'.Spellable := (h.spellable_iff hv).1 hs
  have hback := serializable_reread hv
  have hback' := serializable_reread hv'
  refine ⟨?_, hback.trans hback'.symm, ?_, ?_, sound_reread h.sound, sound_reread h.sound'⟩
  · rw [kind_reread hv, kind_reread hv', h.kind]
  · rw [(encodable_iff hback).2 (spellable_reread hs),
      (encodable_iff hback').2 (spellable_reread hs')]
  · rw [renderable_of_spellable hback (spellable_reread hs),
      renderable_of_spellable hback' (spellable_reread hs')]

end Value

/-- The keys are the same and the values under them alike. -/
def Entries.Alike (es es' : Entries) : Prop :=
  List.Forall₂ (fun e e' => e.1 = e'.1 ∧ e.2.Alike e'.2) es es'

namespace Entries

variable {es es' fs fs' : Entries}

theorem Alike.refl (h : ∀ e ∈ es, e.2.Sound) : es.Alike es :=
  List.forall₂_same.2 fun e he => ⟨rfl, .refl (h e he)⟩

theorem Alike.length (h : es.Alike es') : es.length = es'.length := List.Forall₂.length_eq h

/-- Where the keys are the same and the values under them related, what is found is related. -/
theorem rel_get? {R : Value → Value → Prop}
    (h : List.Forall₂ (fun e e' => e.1 = e'.1 ∧ R e.2 e'.2) es es') (k : Value) :
    Option.Rel R (es.get? k) (es'.get? k) := by
  induction h with
  | nil => exact .none
  | @cons e e' es es' he h ih =>
      rw [get?_cons, get?_cons, he.1]
      split_ifs
      · exact .some he.2
      · exact ih

theorem Alike.get? (h : es.Alike es') (k : Value) :
    Option.Rel Value.Alike (es.get? k) (es'.get? k) :=
  rel_get? h k

theorem Alike.contains (h : es.Alike es') (k : Value) : es.contains k = es'.contains k := by
  have hget := h.get? k
  rw [Entries.contains, Entries.contains]
  revert hget
  generalize Entries.get? es k = found
  generalize Entries.get? es' k = found'
  rintro (_ | _) <;> rfl

theorem Alike.put (h : es.Alike es') {k k' v v' : Value} (hk : k = k') (hv : v.Alike v') :
    (es.put k v).Alike (es'.put k' v') := by
  subst hk
  induction h with
  | nil => exact .cons ⟨rfl, hv⟩ .nil
  | @cons e e' es es' he h ih =>
      rw [Entries.put, Entries.put, he.1]
      split_ifs
      · exact .cons ⟨rfl, hv⟩ h
      · exact .cons he ih

theorem Alike.putAll (h : es.Alike es') (hf : fs.Alike fs') :
    (es.putAll fs).Alike (es'.putAll fs') := by
  induction hf generalizing es es' with
  | nil => exact h
  | cons hf _ ih => exact ih (h.put hf.1 hf.2)

theorem Alike.sound (h : es.Alike es') : ∀ e ∈ es, e.2.Sound := by
  induction h with
  | nil => simp
  | cons he _ ih => exact List.forall_mem_cons.2 ⟨he.2.sound, ih⟩

theorem Alike.sound' (h : es.Alike es') : ∀ e ∈ es', e.2.Sound := by
  induction h with
  | nil => simp
  | cons he _ ih => exact List.forall_mem_cons.2 ⟨he.2.sound', ih⟩

/-- **What is kept of tables that are alike has a text in both or in neither.** -/
theorem Alike.writable_iff (h : es.Alike es') (hes : ∀ e ∈ es, e.2.serializable = true) :
    (∀ e ∈ es, Json.Keyable e.1 ∧ e.2.Spellable) ↔
      ∀ e ∈ es', Json.Keyable e.1 ∧ e.2.Spellable := by
  induction h with
  | nil => simp
  | @cons e e' es es' he _ ih =>
      obtain ⟨hserializable, hrest⟩ := List.forall_mem_cons.1 hes
      rw [List.forall_mem_cons, List.forall_mem_cons, ih hrest, he.1,
        he.2.spellable_iff hserializable]

/-- What a file can keep of tables that are alike is alike. -/
theorem Alike.keep (h : es.Alike es') : es.keep.Alike es'.keep :=
  List.rel_filter (fun _ _ he => iff_of_eq (congrArg (· = true) he.2.serializable)) h

theorem Alike.skipped (h : es.Alike es') : es.skipped.Alike es'.skipped :=
  List.rel_filter (fun _ _ he => iff_of_eq (congrArg (fun b => (!b) = true) he.2.serializable)) h

end Entries

end Tiered
