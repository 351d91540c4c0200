import Mathlib
import Tiered.Files.Access

/-!
# Steps — the text of a path as a walk

The text of a well-formed path leads through its names one by one (`stepsOf_codes`), from the root
or from the current folder (`start_codes`).  A text can be the path of a file when octets stand for
it and U+0000 is not in it (`Nameable`); what can be is also the path of the folder it is in
(`nameable_parent`), whose text is no longer (`sizeOf_parent`).
-/

namespace Tiered

namespace Files

theorem sizeOf_append (us vs : List Code) : sizeOf (us ++ vs) = sizeOf us + sizeOf vs := by
  simp only [sizeOf, Text.Utf8.size, Text.Utf8.encode, Text.chars, Text.numbers, List.map_append,
    List.flatMap_append, List.length_append]

/-! ### Texts that can be the path of a file -/

/-- Octets stand for the text, and it is free of U+0000. -/
structure Nameable (path : Text) : Prop where
  gap : Text.Utf8.Gap.first? path = none
  null : 0 ∉ path.codes

theorem firstFrom?_eq_none_iff {position : Nat} {codes : List Nat} :
    Text.Utf8.Gap.firstFrom? position codes = none ↔
      ∀ code ∈ codes, (Text.isSurrogate code && !Text.Utf8.isOctetMark code) = false := by
  induction codes generalizing position with
  | nil => simp [Text.Utf8.Gap.firstFrom?]
  | cons code codes ih =>
      rw [Text.Utf8.Gap.firstFrom?, List.forall_mem_cons, ← @ih (position + 1)]
      cases Text.isSurrogate code && !Text.Utf8.isOctetMark code <;> simp

theorem first?_eq_none_iff {path : Text} : Text.Utf8.Gap.first? path = none ↔
    ∀ code ∈ path.numbers, (Text.isSurrogate code && !Text.Utf8.isOctetMark code) = false :=
  firstFrom?_eq_none_iff

theorem nameable_nil : Nameable ⟨[]⟩ := ⟨rfl, by simp⟩

/-- What stands on the two sides of a slash decides. -/
theorem nameable_slash_append (us vs : List Code) :
    Nameable ⟨us ++ slash :: vs⟩ ↔ Nameable ⟨us⟩ ∧ Nameable ⟨vs⟩ := by
  have hcodes : (Text.mk (us ++ slash :: vs)).numbers =
      (Text.mk us).numbers ++ slash.val :: (Text.mk vs).numbers := List.map_append
  have hslash : (Text.isSurrogate slash && !Text.Utf8.isOctetMark slash) = false := by decide
  constructor
  · rintro ⟨hg, h₀⟩
    rw [first?_eq_none_iff, hcodes, List.forall_mem_append, List.forall_mem_cons] at hg
    simp only [List.mem_append, List.mem_cons, not_or] at h₀
    exact ⟨⟨first?_eq_none_iff.2 hg.1, h₀.1⟩, first?_eq_none_iff.2 hg.2.2, h₀.2.2⟩
  · rintro ⟨⟨hgu, hu⟩, hgv, hv⟩
    refine ⟨first?_eq_none_iff.2 ?_, ?_⟩
    · rw [hcodes, List.forall_mem_append, List.forall_mem_cons]
      exact ⟨first?_eq_none_iff.1 hgu, hslash, first?_eq_none_iff.1 hgv⟩
    · simp only [List.mem_append, List.mem_cons, not_or]
      exact ⟨hu, by decide, hv⟩

theorem nameable_slash_cons (us : List Code) : Nameable ⟨slash :: us⟩ ↔ Nameable ⟨us⟩ :=
  (nameable_slash_append [] us).trans (and_iff_right nameable_nil)

namespace Path

/-! ### Names between slashes -/

theorem slashJoin_cons {names : List Name} (h : names ≠ []) (name : Name) :
    slashJoin (name :: names) = name ++ slash :: slashJoin names := by
  obtain ⟨n, ns, rfl⟩ := List.exists_cons_of_ne_nil h
  rfl

theorem slashJoin_concat {names : List Name} (h : names ≠ []) (name : Name) :
    slashJoin (names ++ [name]) = slashJoin names ++ slash :: name := by
  induction names with
  | nil => exact absurd rfl h
  | cons n ns ih =>
      by_cases hns : ns = []
      · subst hns; rfl
      · rw [List.cons_append, slashJoin_cons (by simp), ih hns, slashJoin_cons hns]
        simp

theorem Proper.ne_nil {name : Name} (h : Proper name) : name ≠ [] := by
  rintro rfl
  exact absurd h.1 (by decide)

theorem Proper.ne_point {name : Name} (h : Proper name) : name ≠ [point] := by
  rintro rfl
  exact absurd h.1 (by decide)

theorem slashJoin_ne_nil {names : List Name} (h : names ≠ []) (hp : ∀ n ∈ names, Proper n) :
    slashJoin names ≠ [] := by
  obtain ⟨n, ns, rfl⟩ := List.exists_cons_of_ne_nil h
  have hn := (hp n (by simp)).ne_nil
  cases ns with
  | nil => exact hn
  | cons m ms => rw [slashJoin_cons (by simp)]; simp

theorem splitSlash_slashJoin {names : List Name} (h : names ≠ []) (hp : ∀ n ∈ names, Proper n) :
    splitSlash (slashJoin names) = names := by
  induction names with
  | nil => exact absurd rfl h
  | cons n ns ih =>
      rw [List.forall_mem_cons] at hp
      by_cases hns : ns = []
      · subst hns
        exact splitSlash_no_slash hp.1.2
      · rw [slashJoin_cons hns, splitSlash_append hp.1.2, ih hns hp.2]

theorem getLast?_slashJoin {names : List Name} (hp : ∀ n ∈ names, Proper n) :
    (slashJoin names).getLast? ≠ some slash := by
  induction names with
  | nil => simp [slashJoin]
  | cons n ns ih =>
      rw [List.forall_mem_cons] at hp
      by_cases hns : ns = []
      · subst hns
        exact fun h => hp.1.2 (List.mem_of_getLast? h)
      · rw [slashJoin_cons hns, List.getLast?_append_cons,
          List.getLast?_cons_of_ne_nil (slashJoin_ne_nil hns hp.2)]
        exact ih hp.2

/-! ### The code points of a well-formed path -/

theorem codes_of_names {p : Path} (h : p.root ++ slashJoin p.names ≠ []) :
    p.codes = p.root ++ slashJoin p.names := by
  rw [codes]
  split
  · contradiction
  · rfl

theorem WellFormed.parent {p : Path} (h : p.WellFormed) : p.parent.WellFormed :=
  ⟨h.root, fun name hn => h.names name (List.mem_of_mem_dropLast hn)⟩

theorem WellFormed.join {p q : Path} (hp : p.WellFormed) (hq : q.WellFormed) :
    (p.join q).WellFormed := by
  rw [Path.join]
  split_ifs
  · exact ⟨hp.root, List.forall_mem_append.2 ⟨hp.names, hq.names⟩⟩
  · exact hq

theorem codes_ne_nil (p : Path) : p.codes ≠ [] := by
  by_cases h : p.root ++ slashJoin p.names = []
  · rw [codes, h]; simp
  · rwa [codes_of_names h]

/-- The code points of a path with a last name are those of its names in front, a slash and the
name, where there are names in front, and the root and the name, where there are none. -/
theorem codes_concat {p : Path} (h : p.WellFormed) {before : List Name} {name : Name}
    (hn : p.names = before ++ [name]) : p.codes = name ∧ p.parent.codes = [point] ∨
      p.codes = p.parent.codes ++ slash :: name ∨
      p.codes = p.parent.codes ++ name ∧ ∀ u ∈ p.parent.codes, u = slash := by
  obtain ⟨root, names⟩ := p
  obtain rfl : names = before ++ [name] := hn
  have hne : name ≠ [] := (h.names name (by simp)).ne_nil
  by_cases hb : before = []
  · subst hb
    have hu : codes ⟨root, [] ++ [name]⟩ = root ++ name :=
      codes_of_names (by simp [slashJoin, hne])
    rcases h.root with rfl | rfl | rfl
    · exact .inl ⟨hu, rfl⟩
    all_goals
      refine .inr (.inr ⟨hu, fun u hm => ?_⟩)
      simpa [codes, Path.parent, slashJoin] using hm
  · have hp : ∀ n ∈ before, Proper n := fun n hm => h.names n (by simp [hm])
    have hj := slashJoin_ne_nil hb hp
    refine .inr (.inl ?_)
    rw [codes_of_names (by simp [slashJoin_concat hb]), Path.parent,
      codes_of_names (by simp [hj]), List.dropLast_concat,
      slashJoin_concat hb, List.append_assoc]

/-- Apart from a single point, the folder's path is what the path begins with. -/
theorem codes_parent {p : Path} (h : p.WellFormed) (hn : p.names ≠ []) :
    p.parent.codes = [point] ∨ ∃ rest, p.codes = p.parent.codes ++ rest := by
  rcases codes_concat h (List.dropLast_append_getLast hn).symm with ⟨-, hp⟩ | hu | ⟨hu, -⟩
  · exact .inl hp
  · exact .inr ⟨_, hu⟩
  · exact .inr ⟨_, hu⟩

theorem nameable_slashJoin {names : List Name} :
    Nameable ⟨slashJoin names⟩ ↔ ∀ n ∈ names, Nameable ⟨n⟩ := by
  induction names with
  | nil => exact iff_of_true nameable_nil (by simp)
  | cons n ns ih =>
      by_cases hns : ns = []
      · subst hns
        rw [List.forall_mem_singleton, slashJoin]
      · rw [slashJoin_cons hns, nameable_slash_append, ih, List.forall_mem_cons]

/-- **A path can be that of a file exactly when each of its names can.** -/
theorem nameable_text_iff {p : Path} (h : p.WellFormed) :
    Nameable p.text ↔ ∀ n ∈ p.names, Nameable ⟨n⟩ := by
  rw [← nameable_slashJoin, text]
  by_cases hne : p.root ++ slashJoin p.names = []
  · rw [codes, hne, (List.append_eq_nil_iff.1 hne).2]
    exact iff_of_true ⟨by decide, by decide⟩ nameable_nil
  · rw [codes_of_names hne]
    rcases h.root with hr | hr | hr <;> simp [hr, nameable_slash_cons]

/-- **The folder of a path that a file can have can have its path.** -/
theorem nameable_parent {p : Path} (h : p.WellFormed) (hp : Nameable p.text) :
    Nameable p.parent.text :=
  (nameable_text_iff h.parent).2 fun n hn =>
    (nameable_text_iff h).1 hp n (List.mem_of_mem_dropLast hn)

/-- The path of the folder is no longer, unless it is a single point. -/
theorem sizeOf_parent {p : Path} (h : p.WellFormed) (hn : p.names ≠ [])
    (hp : sizeOf p.codes < pathSizeLimit) : sizeOf p.parent.codes < pathSizeLimit := by
  rcases codes_parent h hn with hpoint | ⟨rest, hc⟩
  · rw [hpoint]
    decide
  · refine lt_of_le_of_lt ?_ hp
    rw [hc, sizeOf_append]
    exact Nat.le_add_right _ _

/-! ### The walk of a well-formed path -/

theorem filter_of_proper {names : List Name} (hp : ∀ n ∈ names, Proper n) :
    names.filter (!·.isEmpty) = names :=
  List.filter_eq_self.2 fun n hn => by simpa using (hp n hn).ne_nil

theorem filter_splitSlash_root {p : Path} (h : p.WellFormed) (us : List Code) :
    (splitSlash (p.root ++ us)).filter (!·.isEmpty) = (splitSlash us).filter (!·.isEmpty) := by
  rcases h.root with hr | hr | hr <;> simp [hr, splitSlash_root_append]

/-- **The text of a path leads through its names**, and stays where it begins if there are none. -/
theorem stepsOf_codes {p : Path} (h : p.WellFormed) :
    Disk.stepsOf p.codes = if p.names = [] then [[point]] else p.names := by
  by_cases hn : p.names = []
  · rw [if_pos hn]
    obtain ⟨root, names⟩ := p
    obtain rfl : names = [] := hn
    rcases h.root with rfl | rfl | rfl <;> decide
  · have hj := slashJoin_ne_nil hn h.names
    have hlast : p.codes.getLast? ≠ some slash := by
      rw [codes_of_names (by simp [hj]), List.getLast?_append_of_ne_nil _ hj]
      exact getLast?_slashJoin h.names
    rw [if_neg hn, Disk.stepsOf, if_neg hlast, codes_of_names (by simp [hj]),
      filter_splitSlash_root h, splitSlash_slashJoin hn h.names, filter_of_proper h.names]

end Path

namespace Disk

/-- Where a path begins. -/
def base (d : Disk) (p : Path) : Location := if p.root = [] then d.here else []

theorem start_codes {p : Path} (h : p.WellFormed) (d : Disk) : d.start p.codes = d.base p := by
  obtain ⟨root, names⟩ := p
  rcases h.root with rfl | rfl | rfl
  · have hhead : (Path.codes ⟨[], names⟩).head? ≠ some slash := by
      by_cases hn : names = []
      · subst hn; decide
      · rw [Path.codes_of_names (by simpa using Path.slashJoin_ne_nil hn h.names)]
        exact fun hs => Path.slashJoin_head h.names slash hs rfl
    rw [start, if_neg hhead]
    rfl
  · rw [start, if_pos (by rw [Path.codes_of_names (by simp)]; rfl)]
    rfl
  · rw [start, if_pos (by rw [Path.codes_of_names (by simp)]; rfl)]
    rfl

end Disk

end Files

end Tiered
