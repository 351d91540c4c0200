import Mathlib
import Tiered.Template.Piece

/-!
# Spans — where the special pieces of a template stand

A span is a place in a template with what stands there: an escaped opener, or a placeholder with
white space around a name that has neither braces nor white space in it.  A row of spans *tokenises*
a template when they stand in it one behind the other, and no string of that form begins outside of
them.

* `special?_eq_some_iff`: the scanner finds at the front of a text what of that form is there, and
  nothing else.  So at most one span stands at a place (`Span.In.unique`).
* `tokenises_iff`: exactly one row of spans tokenises a template, and it is the one of the special
  pieces that the template is cut into.
-/

namespace Tiered.Template

/-! ### What can stand in a span -/

/-- An escaped opener, or a placeholder: nothing but white space around a name, which is not empty,
and neither a brace nor white space among them. -/
def Piece.Special : Piece → Prop
  | single _ => False
  | escaped => True
  | placeholder before name behind =>
    (∀ u ∈ before, Text.isBlankCode u = true) ∧ name ≠ [] ∧
      (∀ u ∈ name, u ≠ brace ∧ u ≠ endBrace ∧ Text.isBlankCode u = false) ∧
      ∀ u ∈ behind, Text.isBlankCode u = true

theorem isNameCode_iff {u : Code} :
    isNameCode u = true ↔ u ≠ brace ∧ u ≠ endBrace ∧ Text.isBlankCode u = false := by
  simp [isNameCode, and_assoc]

theorem not_isNameCode_of_isBlankCode {u : Code} (h : Text.isBlankCode u = true) :
    ¬ isNameCode u = true :=
  fun hn => absurd (isNameCode_iff.1 hn).2.2 (by simp [h])

theorem not_isBlankCode_endBrace : ¬ Text.isBlankCode endBrace = true := by decide

theorem not_isNameCode_endBrace : ¬ isNameCode endBrace = true := by decide

/-- What a row begins with, up to the first code point outside a class. -/
theorem takeWhile_append_of_head {p : Code → Bool} {us vs : List Code}
    (hu : ∀ u ∈ us, p u = true) (hv : ∀ v ∈ vs.head?, ¬ p v = true) :
    (us ++ vs).takeWhile p = us ∧ (us ++ vs).dropWhile p = vs := by
  rw [List.takeWhile_append_of_pos hu, List.dropWhile_append_of_pos hu]
  cases vs with
  | nil => simp
  | cons v vs =>
      have hneg := hv v rfl
      rw [List.takeWhile_cons_of_neg hneg, List.dropWhile_cons_of_neg hneg, List.append_nil]
      exact ⟨rfl, rfl⟩

/-- A placeholder whose opener was read is found, with what follows it. -/
theorem placeholder?_append {before name behind : List Code}
    (h : (Piece.placeholder before name behind).Special) (rest : List Code) :
    placeholder? (before ++ (name ++ (behind ++ (closer ++ rest)))) =
      some (.placeholder before name behind, rest) := by
  obtain ⟨hbefore, hne, hname, hbehind⟩ := h
  -- each of the three repetitions ends where the next part begins
  have hclose : ∀ v ∈ (closer ++ rest).head?, ¬ Text.isBlankCode v = true := by
    rintro v ⟨⟩
    exact not_isBlankCode_endBrace
  obtain ⟨htake₃, hdrop₃⟩ := takeWhile_append_of_head hbehind hclose
  have hbehind' : ∀ v ∈ (behind ++ (closer ++ rest)).head?, ¬ isNameCode v = true := by
    cases behind with
    | nil =>
        rintro v ⟨⟩
        exact not_isNameCode_endBrace
    | cons u us =>
        rintro v ⟨⟩
        exact not_isNameCode_of_isBlankCode (hbehind _ List.mem_cons_self)
  obtain ⟨htake₂, hdrop₂⟩ := takeWhile_append_of_head
    (fun u hu => isNameCode_iff.2 (hname u hu)) hbehind'
  have hname' : ∀ v ∈ (name ++ (behind ++ (closer ++ rest))).head?,
      ¬ Text.isBlankCode v = true := by
    obtain ⟨u, us, rfl⟩ := List.exists_cons_of_ne_nil hne
    rintro v ⟨⟩
    simp [(hname u List.mem_cons_self).2.2]
  obtain ⟨htake₁, hdrop₁⟩ := takeWhile_append_of_head hbefore hname'
  simp only [placeholder?, htake₁, hdrop₁, htake₂, hdrop₂, htake₃, hdrop₃,
    List.isEmpty_eq_false_iff.2 hne, Bool.false_eq_true, if_false,
    after?_eq_some_iff.2 (rfl : closer ++ rest = closer ++ rest), Option.map_some]

theorem special_of_placeholder? {us rest : List Code} {p : Piece}
    (h : placeholder? us = some (p, rest)) : p.Special := by
  simp only [placeholder?] at h
  split_ifs at h with hne
  obtain ⟨rest', -, hp⟩ := Option.map_eq_some_iff.1 h
  obtain ⟨rfl, -⟩ := Prod.mk.inj hp
  exact ⟨fun u hu => List.mem_takeWhile_imp hu, by simpa using hne,
    fun u hu => isNameCode_iff.1 (List.mem_takeWhile_imp hu),
    fun u hu => List.mem_takeWhile_imp hu⟩

/-- A text that begins with an opener begins with no escaped one. -/
theorem after?_escapedOpener_opener (us : List Code) :
    after? escapedOpener (opener ++ us) = none := rfl

/-- **The scanner finds at the front of a text what is special there**, and nothing else. -/
theorem special?_eq_some_iff {us rest : List Code} {p : Piece} :
    special? us = some (p, rest) ↔ p.Special ∧ us = p.source ++ rest := by
  constructor
  · intro h
    refine ⟨?_, (source_special? h).symm⟩
    rw [special?] at h
    split at h
    · obtain ⟨rfl, -⟩ := Prod.mk.inj (Option.some.inj h)
      trivial
    · obtain ⟨us', -, hp⟩ := Option.bind_eq_some_iff.1 h
      exact special_of_placeholder? hp
  · rintro ⟨hs, rfl⟩
    cases p with
    | single u => exact hs.elim
    | escaped =>
        have hafter : after? escapedOpener (Piece.escaped.source ++ rest) = some rest :=
          after?_eq_some_iff.2 rfl
        rw [special?, hafter]
    | placeholder before name behind =>
        simp only [Piece.source, List.append_assoc, special?, after?_escapedOpener_opener]
        rw [after?_eq_some_iff.2 (rfl : opener ++ _ = opener ++ _), Option.bind_some,
          placeholder?_append hs]

/-! ### Spans -/

/-- A place in a template, and what stands there. -/
@[ext]
structure Span where
  start : Nat
  piece : Piece
  deriving DecidableEq, Repr

namespace Span

/-- The place behind a span. -/
def stop (s : Span) : Nat := s.start + s.piece.source.length

/-- What is special stands at its place in a text. -/
def In (s : Span) (us : List Code) : Prop :=
  s.piece.Special ∧ s.piece.source <+: us.drop s.start

theorem start_lt_stop (s : Span) : s.start < s.stop :=
  Nat.lt_add_of_pos_right (List.length_pos_iff.2 (source_ne_nil s.piece))

variable {s t : Span} {us : List Code}

theorem in_iff : s.In us ↔ ∃ rest, special? (us.drop s.start) = some (s.piece, rest) := by
  simp only [special?_eq_some_iff, In, exists_and_left]
  exact and_congr_right fun _ => exists_congr fun _ => eq_comm

/-- **At a place stands at most one span.** -/
theorem In.unique (hs : s.In us) (ht : t.In us) (h : s.start = t.start) : s = t := by
  obtain ⟨rest, hs⟩ := in_iff.1 hs
  obtain ⟨rest', ht⟩ := in_iff.1 ht
  rw [h, ht] at hs
  exact Span.ext h (Prod.mk.inj (Option.some.inj hs)).1.symm

end Span

/-- The spans tokenise a text from a place on: they stand in it behind that place, one behind the
other, and whatever of their form begins behind that place begins in one of them. -/
structure Tokenises (us : List Code) (place : Nat) (spans : List Span) : Prop where
  stands : ∀ s ∈ spans, place ≤ s.start ∧ s.In us
  ordered : spans.Pairwise fun s t => s.stop ≤ t.start
  complete : ∀ t : Span, place ≤ t.start → t.In us →
    ∃ s ∈ spans, s.start ≤ t.start ∧ t.start < s.stop

/-- The spans of the special pieces in a row of pieces that begins at a place. -/
def located (place : Nat) : List Piece → List Span
  | [] => []
  | .single _ :: ps => located (place + 1) ps
  | p :: ps => ⟨place, p⟩ :: located (place + p.source.length) ps

theorem located_of_special {p : Piece} (h : p.Special) (place : Nat) (ps : List Piece) :
    located place (p :: ps) = ⟨place, p⟩ :: located (place + p.source.length) ps := by
  cases p with
  | single u => exact h.elim
  | escaped => rfl
  | placeholder before name behind => rfl

section Tokenises

variable {us : List Code} {place : Nat} {spans : List Span}

/-- Behind the end of a text nothing stands. -/
theorem tokenises_of_drop_eq_nil (h : us.drop place = []) :
    Tokenises us place spans ↔ spans = [] := by
  have hnone : ∀ s : Span, place ≤ s.start → ¬ s.In us := by
    intro s hs hin
    have hnil : us.drop s.start = [] := by
      rw [List.drop_eq_nil_iff] at h ⊢
      exact h.trans hs
    obtain ⟨-, hprefix⟩ := hin
    rw [hnil, List.prefix_nil] at hprefix
    exact source_ne_nil s.piece hprefix
  constructor
  · intro ht
    refine List.eq_nil_iff_forall_not_mem.2 fun s hs => ?_
    exact hnone s (ht.stands s hs).1 (ht.stands s hs).2
  · rintro rfl
    exact ⟨by simp, List.Pairwise.nil, fun t ht hin => absurd hin (hnone t ht)⟩

/-- What stands at the place is the first of the spans, and the others tokenise what follows. -/
theorem tokenises_of_in {t : Span} (hin : t.In us) :
    Tokenises us t.start spans ↔ ∃ later, spans = t :: later ∧ Tokenises us t.stop later := by
  constructor
  · intro ht
    obtain ⟨s, hs, hle, -⟩ := ht.complete t le_rfl hin
    obtain rfl := (ht.stands s hs).2.unique hin (Nat.le_antisymm hle (ht.stands s hs).1)
    -- nothing is in front of what begins at the place
    obtain ⟨first, later, rfl⟩ := List.exists_cons_of_ne_nil (List.ne_nil_of_mem hs)
    obtain ⟨hfirst, hlater⟩ := List.pairwise_cons.1 ht.ordered
    obtain rfl | hs := List.mem_cons.1 hs
    · refine ⟨later, rfl, fun r hr => ⟨hfirst r hr, (ht.stands r (List.mem_cons_of_mem _ hr)).2⟩,
        hlater, fun r hr hrin => ?_⟩
      obtain ⟨q, hq, hqr, hrq⟩ := ht.complete r (s.start_lt_stop.le.trans hr) hrin
      obtain rfl | hq := List.mem_cons.1 hq
      · exact absurd hrq (Nat.not_lt.2 hr)
      · exact ⟨q, hq, hqr, hrq⟩
    · have hbefore := first.start_lt_stop.trans_le (hfirst s hs)
      exact absurd (ht.stands first List.mem_cons_self).1 (Nat.not_le.2 hbefore)
  · rintro ⟨later, rfl, hl⟩
    refine ⟨?_, List.pairwise_cons.2 ⟨fun r hr => (hl.stands r hr).1, hl.ordered⟩, ?_⟩
    · intro s hs
      obtain rfl | hs := List.mem_cons.1 hs
      · exact ⟨le_rfl, hin⟩
      · exact ⟨t.start_lt_stop.le.trans (hl.stands s hs).1, (hl.stands s hs).2⟩
    · intro r hr hrin
      by_cases hstop : r.start < t.stop
      · exact ⟨t, List.mem_cons_self, hr, hstop⟩
      · obtain ⟨q, hq, hqr⟩ := hl.complete r (Nat.not_lt.1 hstop) hrin
        exact ⟨q, List.mem_cons_of_mem _ hq, hqr⟩

/-- Where nothing stands at the place, the spans tokenise what follows. -/
theorem tokenises_of_not_in (h : ∀ t : Span, t.start = place → ¬ t.In us) :
    Tokenises us place spans ↔ Tokenises us (place + 1) spans := by
  have hnext : ∀ t : Span, t.In us → (place ≤ t.start ↔ place + 1 ≤ t.start) := by
    intro t ht
    have hne : place ≠ t.start := fun he => h t he.symm ht
    omega
  constructor
  · intro ht
    refine ⟨fun s hs => ?_, ht.ordered, fun t hle hin => ht.complete t (Nat.le_of_succ_le hle) hin⟩
    obtain ⟨hle, hin⟩ := ht.stands s hs
    exact ⟨(hnext s hin).1 hle, hin⟩
  · intro ht
    refine ⟨fun s hs => ?_, ht.ordered, fun t hle hin => ht.complete t ((hnext t hin).1 hle) hin⟩
    obtain ⟨hle, hin⟩ := ht.stands s hs
    exact ⟨Nat.le_of_succ_le hle, hin⟩

/-- What follows a code point. -/
theorem drop_single {u : Code} {later : List Code} (h : us.drop place = u :: later) :
    us.drop (place + 1) = later := by
  rw [← List.drop_drop, h, List.drop_one, List.tail]

/-- What follows a special piece. -/
theorem drop_special {p : Piece} {rest later : List Code} (h : us.drop place = rest)
    (hs : special? rest = some (p, later)) : us.drop (Span.mk place p).stop = later := by
  rw [Span.stop, ← List.drop_drop, h, ← source_special? hs, List.drop_left]

/-- The spans from a place on are those of the pieces of the rest. -/
theorem tokenises_iff_located {rest : List Code} (h : us.drop place = rest) :
    Tokenises us place spans ↔ spans = located place (pieces rest) := by
  -- along the pieces: what is special at the front, a single code point, or the end
  fun_induction pieces rest generalizing place spans with
  | case1 rest p later hs ih =>
      have hin : (Span.mk place p).In us := Span.in_iff.2 ⟨later, h ▸ hs⟩
      rw [located_of_special hin.1, tokenises_of_in hin]
      simp only [ih (drop_special h hs), exists_eq_right]
      rfl
  | case2 hs => exact tokenises_of_drop_eq_nil h
  | case3 u later hs ih =>
      have hnone : ∀ t : Span, t.start = place → ¬ t.In us := by
        rintro t rfl hin
        obtain ⟨rest, hr⟩ := Span.in_iff.1 hin
        rw [h, hs] at hr
        exact absurd hr (by simp)
      rw [tokenises_of_not_in hnone, located]
      exact ih (drop_single h)

end Tokenises

/-- **Exactly one row of spans tokenises a template**: the one of its special pieces. -/
theorem tokenises_iff {us : List Code} {spans : List Span} :
    Tokenises us 0 spans ↔ spans = located 0 (pieces us) :=
  tokenises_iff_located List.drop_zero

end Tiered.Template
