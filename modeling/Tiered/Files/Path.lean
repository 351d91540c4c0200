import Tiered.Text.Basic

/-!
# Path — file paths as texts and as parts

A path is a root and a row of names.  Reading a text as a path drops empty names and single points,
and keeps double points; writing puts slashes between the names.  What was read and written once
reads as the same path (`ofText_text`).
-/

namespace Tiered.Files

/-- A name between slashes. -/
abbrev Name := List Code

/-- The code point between the names of a path. -/
def slash : Code := 0x2F

/-- The code point that alone names the folder it stands in, and twice the folder above. -/
def point : Code := 0x2E

/-- A path: its root, which is empty for a relative one, and its names. -/
structure Path where
  root : List Code
  names : List Name
  deriving DecidableEq, Repr

/-- The texts between slashes. -/
def splitSlash : List Code → List Name
  | [] => [[]]
  | u :: us =>
    if u = slash then [] :: splitSlash us
    else match splitSlash us with
      | [] => [[u]]
      | name :: names => (u :: name) :: names

/-- A name that stands for something: neither empty nor a single point. -/
def isName (name : Name) : Bool := !name.isEmpty && name != [point]

namespace Path

/-- The slashes in front of a text that make its root: exactly two are a root of their own, any
other number counts as one. -/
def rootOf (us : List Code) : List Code :=
  match (us.takeWhile (· = slash)).length with
  | 0 => []
  | 2 => [slash, slash]
  | _ => [slash]

/-- The path that the codes of a text name. -/
def ofCodes (us : List Code) : Path := ⟨rootOf us, (splitSlash us).filter isName⟩

/-- The path that a text names. -/
def ofText (t : Text) : Path := ofCodes t.codes

/-- The names with slashes between them. -/
def slashJoin : List Name → List Code
  | [] => []
  | [name] => name
  | name :: names => name ++ slash :: slashJoin names

/-- The codes of a path; without root and names it is a single point. -/
def codes (p : Path) : List Code :=
  match p.root ++ slashJoin p.names with
  | [] => [point]
  | us => us

/-- The text of a path. -/
def text (p : Path) : Text := ⟨p.codes⟩

/-- The path of a folder followed by another path, which replaces it if it has a root. -/
def join (p q : Path) : Path :=
  if q.root.isEmpty then ⟨p.root, p.names ++ q.names⟩ else q

/-- The path without its last name. -/
def parent (p : Path) : Path := ⟨p.root, p.names.dropLast⟩

/-- A name that can stand in a path: it stands for something and has no slash in it. -/
def Proper (name : Name) : Prop := isName name = true ∧ slash ∉ name

/-- A path as reading a text gives it. -/
structure WellFormed (p : Path) : Prop where
  root : p.root = [] ∨ p.root = [slash] ∨ p.root = [slash, slash]
  names : ∀ name ∈ p.names, Proper name

end Path

theorem splitSlash_ne_nil (us : List Code) : splitSlash us ≠ [] := by
  fun_cases splitSlash us <;> simp_all

theorem splitSlash_no_slash {name : List Code} (h : slash ∉ name) : splitSlash name = [name] := by
  induction name with
  | nil => rfl
  | cons u us ih =>
    simp only [List.mem_cons, not_or] at h
    simp [splitSlash, Ne.symm h.1, ih h.2]

theorem splitSlash_append {name : List Code} (h : slash ∉ name) (us : List Code) :
    splitSlash (name ++ slash :: us) = name :: splitSlash us := by
  induction name with
  | nil => simp [splitSlash]
  | cons u name ih =>
    simp only [List.mem_cons, not_or] at h
    simp [splitSlash, Ne.symm h.1, ih h.2]

theorem not_slash_of_mem_splitSlash {us : List Code} {name : Name} (h : name ∈ splitSlash us) :
    slash ∉ name := by
  induction us generalizing name with
  | nil => simp_all [splitSlash]
  | cons u us ih =>
    rw [splitSlash] at h
    split at h
    · rcases List.mem_cons.1 h with rfl | h
      · simp
      · exact ih h
    · next hc =>
      split at h
      · next hn => exact absurd hn (splitSlash_ne_nil us)
      · next n ns hn =>
        rcases List.mem_cons.1 h with rfl | h
        · have := @ih n (by simp [hn])
          simp [Ne.symm hc, this]
        · exact ih (by simp [hn, h])

theorem filter_splitSlash_slashJoin {names : List Name} (h : ∀ n ∈ names, Path.Proper n) :
    (splitSlash (Path.slashJoin names)).filter isName = names := by
  fun_induction Path.slashJoin names with
  | case1 => rfl
  | case2 name =>
    have := h name (by simp)
    simp [splitSlash_no_slash this.2, this.1]
  | case3 name names _ ih =>
    have hn := h name (by simp)
    have ih := ih fun n hm => h n (by simp [hm])
    simp [splitSlash_append hn.2, hn.1, ih]

namespace Path

theorem wellFormed_ofCodes (us : List Code) : WellFormed (ofCodes us) where
  root := by
    simp only [ofCodes, rootOf]
    split <;> simp
  names := by
    intro name h
    simp only [ofCodes, List.mem_filter] at h
    exact ⟨h.2, not_slash_of_mem_splitSlash h.1⟩

theorem slashJoin_head {names : List Name} (h : ∀ n ∈ names, Proper n) :
    ∀ u, (slashJoin names).head? = some u → u ≠ slash := by
  intro u hc
  cases names with
  | nil => simp [slashJoin] at hc
  | cons name names =>
    obtain ⟨hn, hs⟩ := h name (by simp)
    cases name with
    | nil => simp [isName] at hn
    | cons d ds =>
      have : u = d := by
        cases names <;> simp [slashJoin] at hc <;> exact hc.symm
      subst this
      simp only [List.mem_cons, not_or] at hs
      exact Ne.symm hs.1

theorem splitSlash_root_append (us : List Code) :
    splitSlash (slash :: us) = [] :: splitSlash us := by simp [splitSlash]

/-- Reading back the text of a path gives the path. -/
theorem ofCodes_codes {p : Path} (h : WellFormed p) : ofCodes p.codes = p := by
  obtain ⟨root, names⟩ := p
  have hnames := filter_splitSlash_slashJoin h.names
  have hhead := slashJoin_head h.names
  have htake : (slashJoin names).takeWhile (· = slash) = [] := by
    cases hj : slashJoin names with
    | nil => rfl
    | cons u us =>
      have := hhead u (by simp [hj])
      simp [this]
  have hroot := h.root
  simp only at hroot hnames
  rcases hroot with rfl | rfl | rfl
  · simp only [codes, List.nil_append]
    split
    · next hj =>
      have : names = [] := by
        rw [← hnames, hj]
        rfl
      subst this
      rfl
    · simp [ofCodes, rootOf, htake, hnames]
  · simp [codes, ofCodes, rootOf, htake, splitSlash_root_append, hnames, isName]
  · simp [codes, ofCodes, rootOf, htake, splitSlash_root_append, hnames, isName]

theorem ofText_text {p : Path} (h : WellFormed p) : ofText p.text = p := by
  simp [ofText, text, ofCodes_codes h]

end Path

example : (Path.ofText "a//b/./../c/").text = "a/b/../c" := by decide

end Tiered.Files
