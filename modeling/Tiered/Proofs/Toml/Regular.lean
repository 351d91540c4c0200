import Mathlib
import Tiered.Proofs.Result
import Tiered.Proofs.Value.Table
import Tiered.Toml.Reader

/-!
# Regular — the table of a document

Whatever the document, different texts are the keys of its table (`keyed_of_read`).  A statement
changes the table at one name, by writing under it, and writing under a text keeps a table `Keyed`;
so every statement keeps the root of the draft that way (`keyed_statement`), and by induction the
whole document does.
-/

namespace Tiered

/-- Different texts are the keys. -/
structure Entries.Keyed (es : Entries) : Prop where
  texts : es.TextKeys
  distinct : es.Distinct

theorem Entries.keyed_nil : Entries.Keyed [] := ⟨Entries.regular_nil.texts, .nil⟩

theorem Entries.Keyed.put {es : Entries} (h : es.Keyed) (name : Text) (v : Value) :
    (es.put (.text name) v).Keyed :=
  ⟨Entries.textKeys_put h.texts name v, Entries.distinct_put h.distinct _ v⟩

namespace Toml

variable {es es' : Entries} {d d' : Draft} {header : Key} {cs : List Char}

/-! ### Changes of the draft -/

section Change

variable {ε : Type} {change : Entries → Except ε Entries} {name : String}

/-- A change further down is a writing under the first name of the key. -/
theorem keyed_within {intoArrays : Bool} {blocked : ε} {key : Key} (hes : es.Keyed)
    (hchange : ∀ es', change es = .ok es' → es'.Keyed)
    (h : within intoArrays blocked change es key = .ok es') : es'.Keyed := by
  cases key with
  | nil => exact hchange es' h
  | cons name names =>
      rw [within] at h
      split at h
      · obtain ⟨inner, -, rfl⟩ := map_eq_ok_iff.1 h
        exact hes.put _ _
      · obtain ⟨inner, -, rfl⟩ := map_eq_ok_iff.1 h
        exact hes.put _ _
      · split at h
        · obtain ⟨inner, -, rfl⟩ := map_eq_ok_iff.1 h
          exact hes.put _ _
        · exact absurd h (by simp)
      · exact absurd h (by simp)

theorem keyed_addEntry {taken : ε} {v : Value} (hes : es.Keyed)
    (h : addEntry taken name v es = .ok es') : es'.Keyed := by
  rw [addEntry] at h
  split_ifs at h
  obtain rfl := Except.ok.inj h
  exact hes.put _ _

theorem keyed_addTable {blocked : ε} (hes : es.Keyed) (h : addTable blocked name es = .ok es') :
    es'.Keyed := by
  rw [addTable] at h
  split at h
  · obtain rfl := Except.ok.inj h
    exact hes.put _ _
  · obtain rfl := Except.ok.inj h
    exact hes.put _ _
  · exact absurd h (by simp)

end Change

theorem keyed_declare {key : Key} (hd : d.root.Keyed) (h : d.declare key = .ok d') :
    d'.root.Keyed := by
  rw [Draft.declare] at h
  split_ifs at h
  obtain ⟨root, hroot, rfl⟩ := map_eq_ok_iff.1 h
  refine keyed_within hd (fun es' h => ?_) hroot
  obtain rfl := Except.ok.inj h
  exact hd

theorem keyed_append {key : Key} (hd : d.root.Keyed) (h : d.append key = .ok d') :
    d'.root.Keyed := by
  rw [Draft.append] at h
  split_ifs at h
  obtain ⟨root, hroot, rfl⟩ := map_eq_ok_iff.1 h
  exact keyed_within hd (fun es' h => keyed_addTable hd h) hroot

theorem keyed_assign {key : Key} {v : Value} (hd : d.root.Keyed)
    (h : d.assign header key v = .ok d') : d'.root.Keyed := by
  rw [Draft.assign] at h
  dsimp only at h
  split at h
  · exact absurd h (by simp)
  · split at h
    · exact absurd h (by simp)
    · obtain ⟨root, hroot, rfl⟩ := map_eq_ok_iff.1 h
      exact keyed_within hd (fun es' h => keyed_addEntry hd h) hroot

/-! ### Statements -/

theorem keyed_closing {mark rest : List Char} {missing : Malformation}
    {change : Except Malformation Draft} {progress : Progress}
    (hchange : ∀ d', change = .ok d' → d'.root.Keyed)
    (h : closing mark missing header rest change = .ok progress) : progress.1.root.Keyed := by
  cases change with
  | error what => exact absurd h (by simp [closing])
  | ok d =>
      rw [closing] at h
      split_ifs at h
      obtain rfl := Except.ok.inj h
      exact hchange d rfl

theorem keyed_assignment {progress : Progress} (hd : d.root.Keyed)
    (h : assignment d header cs = .ok progress) : progress.1.root.Keyed := by
  obtain ⟨⟨k, rest⟩, -, h⟩ := bind_eq_ok_iff.1 h
  dsimp only at h
  split at h
  · obtain ⟨⟨v, rest⟩, -, h⟩ := bind_eq_ok_iff.1 h
    dsimp only at h
    split at h
    · exact absurd h (by simp)
    · next d' hassign =>
      obtain rfl := Except.ok.inj h
      exact keyed_assign hd hassign
  · exact absurd h (by simp)

/-- **Every statement leaves different texts as the keys of the document.** -/
theorem keyed_statement {progress : Progress} (hd : d.root.Keyed)
    (h : statement d header cs = .ok progress) : progress.1.root.Keyed := by
  rw [statement.eq_def] at h
  split at h
  · obtain ⟨⟨k, rest⟩, -, h⟩ := bind_eq_ok_iff.1 h
    exact keyed_closing (fun d' h => keyed_append (d := d.beginHeader) hd h) h
  · obtain ⟨⟨k, rest⟩, -, h⟩ := bind_eq_ok_iff.1 h
    exact keyed_closing (fun d' h => keyed_declare (d := d.beginHeader) hd h) h
  · obtain rfl := Except.ok.inj h
    exact hd
  · split_ifs at h
    exact keyed_assignment hd h
  · obtain rfl := Except.ok.inj h
    exact hd

theorem keyed_statements {fuel : Nat} (hd : d.root.Keyed)
    (h : statements fuel d header cs = .ok es) : es.Keyed := by
  induction fuel generalizing d header cs with
  | zero =>
      obtain rfl := Except.ok.inj h
      exact hd
  | succ fuel ih =>
      rw [statements] at h
      split at h
      · obtain rfl := Except.ok.inj h
        exact hd
      · exact ih hd h
      · obtain ⟨⟨d', header', rest⟩, hstatement, h⟩ := bind_eq_ok_iff.1 h
        have hd' := keyed_statement hd hstatement
        obtain ⟨rest', -, h⟩ := bind_eq_ok_iff.1 h
        split at h
        · obtain rfl := Except.ok.inj h
          exact hd'
        · exact ih hd' h
        · exact absurd h (by simp)

/-- **Different texts are the keys of every table that is read.** -/
theorem keyed_of_read (h : read cs = .ok es) : es.Keyed := by
  rw [read] at h
  split at h
  · next hdocument =>
    obtain rfl := Except.ok.inj h
    exact keyed_statements Entries.keyed_nil hdocument
  all_goals exact absurd h (by simp)

end Toml

end Tiered
