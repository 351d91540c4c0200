import Tiered.Text.Blank

/-!
# Piece — templates cut into pieces

A template is cut from left to right into pieces: an escaped opener, which is a backslash before
two opening braces, a placeholder, which is a name between two opening and two closing braces with
white space allowed around it, and single code points.  The pieces hold the whole template
(`source_pieces`).
-/

namespace Tiered.Template

/-- An opening brace. -/
def brace : Code := 0x7B

/-- A closing brace. -/
def endBrace : Code := 0x7D

/-- What a placeholder begins with. -/
def opener : List Code := [brace, brace]

/-- What a placeholder ends with. -/
def closer : List Code := [endBrace, endBrace]

/-- An opener behind a backslash, which does not open. -/
def escapedOpener : List Code := 0x5C :: opener

/-- A piece of a template. -/
inductive Piece where
  /-- A code point that stands for itself. -/
  | single (u : Code)
  /-- An escaped opener. -/
  | escaped
  /-- A placeholder: its name, and what stands around the name between the braces. -/
  | placeholder (before name behind : List Code)
  deriving DecidableEq, Repr

/-- The text of a piece in the template. -/
def Piece.source : Piece → List Code
  | single u => [u]
  | escaped => escapedOpener
  | placeholder before name behind => opener ++ before ++ name ++ behind ++ closer

/-- The code points of a name: neither braces nor white space. -/
def isNameCode (u : Code) : Bool := u != brace && u != endBrace && !Text.isBlankCode u

/-- What follows a mark in a text that begins with it. -/
def after? : List Code → List Code → Option (List Code)
  | [], us => some us
  | _ :: _, [] => none
  | m :: mark, u :: us => if m = u then after? mark us else none

theorem after?_eq_some_iff {mark us rest : List Code} :
    after? mark us = some rest ↔ us = mark ++ rest := by
  fun_induction after? mark us with
  | case1 us => simp
  | case2 => simp
  | case3 mark m us ih => simp [ih]
  | case4 m mark u us hne => simp [Ne.symm hne]

/-- The placeholder whose opener stands before the given text, and what follows it. -/
def placeholder? (us : List Code) : Option (Piece × List Code) :=
  let before := us.takeWhile Text.isBlankCode
  let rest := us.dropWhile Text.isBlankCode
  let name := rest.takeWhile isNameCode
  let rest := rest.dropWhile isNameCode
  let behind := rest.takeWhile Text.isBlankCode
  if name.isEmpty then none
  else (after? closer (rest.dropWhile Text.isBlankCode)).map fun rest =>
    (.placeholder before name behind, rest)

/-- The escaped opener or the placeholder that a text begins with, and what follows it. -/
def special? (us : List Code) : Option (Piece × List Code) :=
  match after? escapedOpener us with
  | some rest => some (.escaped, rest)
  | none => (after? opener us).bind placeholder?

theorem source_placeholder? {us rest : List Code} {p : Piece}
    (h : placeholder? us = some (p, rest)) : p.source ++ rest = opener ++ us := by
  simp only [placeholder?] at h
  split at h
  · simp at h
  · simp only [Option.map_eq_some_iff, after?_eq_some_iff, Prod.mk.injEq] at h
    obtain ⟨rest', hr, rfl, rfl⟩ := h
    have h₁ := List.takeWhile_append_dropWhile (p := Text.isBlankCode) (l := us)
    have h₂ := List.takeWhile_append_dropWhile (p := isNameCode)
      (l := us.dropWhile Text.isBlankCode)
    have h₃ := List.takeWhile_append_dropWhile (p := Text.isBlankCode)
      (l := (us.dropWhile Text.isBlankCode).dropWhile isNameCode)
    rw [hr] at h₃
    simp only [Piece.source, List.append_assoc, h₃, h₂, h₁]

theorem source_special? {us rest : List Code} {p : Piece} (h : special? us = some (p, rest)) :
    p.source ++ rest = us := by
  unfold special? at h
  split at h
  · next rest' hr =>
    simp only [Option.some.injEq, Prod.mk.injEq] at h
    obtain ⟨rfl, rfl⟩ := h
    exact (after?_eq_some_iff.1 hr).symm
  · obtain ⟨us', ho, hp⟩ := Option.bind_eq_some_iff.1 h
    rw [source_placeholder? hp, after?_eq_some_iff.1 ho]

theorem source_ne_nil (p : Piece) : p.source ≠ [] := by
  cases p <;> simp [Piece.source, escapedOpener, opener]

theorem length_of_special? {us rest : List Code} {p : Piece} (h : special? us = some (p, rest)) :
    rest.length < us.length := by
  have hs := source_special? h
  have hp := List.length_pos_iff.2 (source_ne_nil p)
  rw [← hs, List.length_append]
  omega

/-- The pieces of a template. -/
def pieces (us : List Code) : List Piece :=
  match _h : special? us with
  | some (p, rest) => p :: pieces rest
  | none => match us with
    | [] => []
    | u :: rest => .single u :: pieces rest
termination_by us.length
decreasing_by
  · exact length_of_special? ‹_›
  · simp

theorem pieces_of_special {us rest : List Code} {p : Piece} (h : special? us = some (p, rest)) :
    pieces us = p :: pieces rest := by
  rw [pieces]
  split
  · next q rest' hq =>
    rw [h] at hq
    simp only [Option.some.injEq, Prod.mk.injEq] at hq
    rw [hq.1, hq.2]
  · next hn => simp [h] at hn

theorem pieces_nil : pieces [] = [] := by
  rw [pieces]
  simp [special?, escapedOpener, opener, after?]

theorem pieces_cons_of_none {u : Code} {rest : List Code} (h : special? (u :: rest) = none) :
    pieces (u :: rest) = .single u :: pieces rest := by
  rw [pieces]
  split
  · next hs => simp [h] at hs
  · rfl

/-- Nothing of a template is lost: its pieces hold it. -/
theorem source_pieces (us : List Code) : (pieces us).flatMap Piece.source = us := by
  induction hn : us.length using Nat.strongRecOn generalizing us with
  | _ n ih =>
    cases hs : special? us with
    | some r =>
      obtain ⟨p, rest⟩ := r
      have := length_of_special? hs
      rw [pieces_of_special hs, List.flatMap_cons, ih _ (by omega) rest rfl, source_special? hs]
    | none =>
      cases us with
      | nil => simp [pieces_nil]
      | cons u rest =>
        rw [pieces_cons_of_none hs, List.flatMap_cons, ih _ (by simp at hn; omega) rest rfl]
        rfl

/-- The name of a placeholder. -/
def Piece.name? : Piece → Option (List Code)
  | placeholder _ name _ => some name
  | _ => none

/-- The values in their order, each one once, where it comes first. -/
def firsts {α : Type} [BEq α] (xs : List α) : List α :=
  xs.foldl (fun acc x => if acc.contains x then acc else acc ++ [x]) []

/-- The names of the placeholders of a template, each one once, where it comes first. -/
def names (t : Text) : List Text := firsts ((pieces t.codes).filterMap fun p => p.name?.map .mk)

end Tiered.Template
