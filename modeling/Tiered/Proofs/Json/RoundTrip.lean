import Mathlib
import Tiered.Proofs.Json.Literal
import Tiered.Proofs.Json.Number
import Tiered.Proofs.Result
import Tiered.Proofs.Value.Reread

/-!
# RoundTrip — a written value is read back

`Reads p v` says that a reader with fuel for the length of `p` takes `v` from it and leaves what
follows.  Each form of the writer is shown to be read as its value: numbers (`reads_number`),
literals (`reads_literal`), lists and tables from their parts (`reads_list`, `reads_table`), in
every style whose gaps are blanks (`Style.Blank`).

* `reads_writeAt`: the text of a serializable value is read as what comes back of the value.
* `read_write`: so is a whole document, and a table under keys that are no texts is read under the
  texts that the keys have (`read_write_table`).
-/

namespace Tiered.Json
open Number (Layout)
open Number.Decimal (isDigit)

/-- What starts a value: neither white space nor the end of a list, nor a mark of byte order. -/
def Starts (p : List Char) : Prop :=
  ∃ c cs, p = c :: cs ∧ isSpace c = false ∧ c ≠ ']' ∧ c ≠ '\x7d' ∧ c ≠ '\ufeff'

/-- The text is read as the value, and what follows is left. -/
structure Reads (p : List Char) (v : Value) : Prop where
  starts : Starts p
  reads : ∀ fuel, p.length ≤ fuel → ∀ rest, Ends rest → value fuel (p ++ rest) = .ok (v, rest)

/-- The gaps behind commas and colons are blanks. -/
structure Style.Blank (style : Style) : Prop where
  comma : ∀ c ∈ style.commaGap, c = ' '
  colon : ∀ c ∈ style.colonGap, c = ' '

/-- The gaps are blanks, and all but ASCII is escaped. -/
structure Style.Ascii (style : Style) : Prop extends style.Blank where
  escaped : style.asciiOnly = true

/-! ### White space -/

theorem skipSpace_append {gap : List Char} (h : ∀ c ∈ gap, isSpace c = true) (cs : List Char) :
    skipSpace (gap ++ cs) = skipSpace cs := by
  rw [skipSpace, List.dropWhile_append_of_pos h, skipSpace]

theorem skipSpace_cons {c : Char} (h : isSpace c = false) (cs : List Char) :
    skipSpace (c :: cs) = c :: cs := by
  rw [skipSpace, List.dropWhile_cons_of_neg (by simp [h])]

theorem skipSpace_of_starts {p : List Char} (h : Starts p) (rest : List Char) :
    skipSpace (p ++ rest) = p ++ rest := by
  obtain ⟨c, cs, rfl, hc, -⟩ := h
  exact skipSpace_cons hc _

theorem isSpace_of_blank {gap : List Char} (h : ∀ c ∈ gap, c = ' ') :
    ∀ c ∈ gap, isSpace c = true := fun c hc => h c hc ▸ rfl

theorem isSpace_lineBreak (style : Style) (depth : Nat) :
    ∀ c ∈ style.lineBreak depth, isSpace c = true := by
  intro c hc
  rw [Style.lineBreak] at hc
  cases hi : style.indent with
  | none => simp [hi] at hc
  | some width =>
      simp only [hi, List.mem_cons, List.mem_replicate] at hc
      rcases hc with rfl | ⟨-, rfl⟩ <;> rfl

theorem isDigit_of_isSpace {c : Char} (h : isSpace c = true) :
    isDigit c = false ∧ c ≠ '.' ∧ c ≠ 'e' ∧ c ≠ 'E' := by
  simp only [isSpace, Bool.or_eq_true, decide_eq_true_eq] at h
  rcases h with ((rfl | rfl) | rfl) | rfl <;> decide

/-- White space in front of a closing bracket ends a number, and so does the bracket. -/
theorem ends_gap {gap : List Char} (h : ∀ c ∈ gap, isSpace c = true) {close : Char}
    (hclose : isDigit close = false ∧ close ≠ '.' ∧ close ≠ 'e' ∧ close ≠ 'E')
    (rest : List Char) : Ends (gap ++ close :: rest) := by
  cases gap with
  | nil => exact Ends.cons hclose rest
  | cons c gap => exact Ends.cons (isDigit_of_isSpace (h c (by simp))) _

/-! ### Words, numbers and literals -/

theorem reads_word {p : List Char} {v : Value} (hp : Starts p)
    (h : ∀ fuel rest, value (fuel + 1) (p ++ rest) = .ok (v, rest)) : Reads p v := by
  refine ⟨hp, fun fuel hf rest _ => ?_⟩
  obtain ⟨c, cs, rfl, -⟩ := hp
  obtain ⟨fuel, rfl⟩ := Nat.exists_eq_add_of_le' hf
  rw [List.length_cons, ← Nat.add_assoc]
  exact h _ rest

theorem reads_none : Reads "null".toList .none :=
  reads_word ⟨'n', _, rfl, by decide⟩ fun _ _ => rfl

theorem reads_bool (b : Bool) :
    Reads (if b then "true".toList else "false".toList) (.bool b) := by
  cases b with
  | true => exact reads_word ⟨'t', _, rfl, by decide⟩ fun _ _ => rfl
  | false => exact reads_word ⟨'f', _, rfl, by decide⟩ fun _ _ => rfl

/-- What is read as a number begins like one. -/
theorem starts_of_number {cs : List Char} {r : Value × List Char} (h : number cs = .ok r) :
    Starts cs := by
  cases cs with
  | nil => cases h
  | cons c cs =>
      refine ⟨c, cs, rfl, ?_, ?_, ?_, ?_⟩
      · by_contra hs
        simp only [isSpace, Bool.not_eq_false, Bool.or_eq_true, decide_eq_true_eq] at hs
        rcases hs with ((rfl | rfl) | rfl) | rfl <;> cases h
      all_goals
        rintro rfl
        cases h

theorem value_of_number {cs : List Char} {r : Value × List Char} (h : number cs = .ok r)
    (fuel : Nat) : value (fuel + 1) cs = .ok r := by
  rw [value.eq_def]
  split
  · next hf => simp at hf
  · next hf =>
      split
      all_goals first | exact h | cases h

/-- A number is read as a value wherever it ends. -/
theorem reads_number {p : List Char} {v : Value}
    (h : ∀ rest, Ends rest → number (p ++ rest) = .ok (v, rest)) : Reads p v := by
  have hp : Starts p := by
    have := h [] Ends.nil
    rw [List.append_nil] at this
    exact starts_of_number this
  refine ⟨hp, fun fuel hf rest hrest => ?_⟩
  obtain ⟨c, cs, rfl, -⟩ := hp
  obtain ⟨fuel, rfl⟩ := Nat.exists_eq_add_of_le' hf
  exact value_of_number (h rest hrest) _

theorem reads_literal (asciiOnly : Bool) (t : Text) :
    Reads (Literal.write asciiOnly t) (.text (Literal.spelt asciiOnly t)) := by
  obtain ⟨body, hw, hr⟩ := Literal.read_write asciiOnly t
  rw [hw]
  refine reads_word ⟨'"', body, rfl, by decide⟩ fun fuel rest => ?_
  have hl : literal ('"' :: (body ++ rest)) (body ++ rest) =
      .ok (Literal.spelt asciiOnly t, rest) := by
    rw [literal, hr]
  show (literal ('"' :: (body ++ rest)) (body ++ rest)).map _ = _
  rw [hl]
  rfl

/-! ### Lists -/

theorem separate_cons_cons (style : Style) (depth : Nat) (p q : List Char)
    (ps : List (List Char)) :
    separate style depth (p :: q :: ps) =
      p ++ ',' :: style.commaGap ++ style.lineBreak depth ++ separate style depth (q :: ps) := rfl

/-- Parts between brackets, with at least one part. -/
theorem bracketed_cons (style : Style) (depth : Nat) (opening closing : Char) (p : List Char)
    (ps : List (List Char)) (rest : List Char) :
    bracketed style depth opening closing (p :: ps) ++ rest =
      opening :: (style.lineBreak (depth + 1) ++ (separate style (depth + 1) (p :: ps) ++
        (style.lineBreak depth ++ closing :: rest))) := by
  simp [bracketed]

/-- What starts a value closes nothing. -/
theorem Starts.head_ne {p : List Char} (h : Starts p) (rest : List Char) :
    (p ++ rest).head? ≠ some ']' ∧ (p ++ rest).head? ≠ some '\x7d' := by
  obtain ⟨c, cs, rfl, -, hb, hc, -⟩ := h
  exact ⟨fun h => hb (Option.some.inj h), fun h => hc (Option.some.inj h)⟩

theorem value_bracket (fuel : Nat) {body : List Char} (h : (skipSpace body).head? ≠ some ']') :
    value (fuel + 1) ('[' :: body) =
      (items fuel (skipSpace body)).map fun r => (.list r.1, r.2) := by
  rw [value]
  split
  · next heq => exact absurd (by rw [heq]; rfl) h
  · rfl

theorem value_brace (fuel : Nat) {body : List Char} (h : (skipSpace body).head? ≠ some '\x7d') :
    value (fuel + 1) ('\x7b' :: body) =
      (members fuel [] (skipSpace body)).map fun r => (.table r.1, r.2) := by
  rw [value]
  split
  · next heq => exact absurd (by rw [heq]; rfl) h
  · rfl

theorem starts_separate {style : Style} {depth : Nat} {p : List Char} (h : Starts p)
    (ps : List (List Char)) : Starts (separate style depth (p :: ps)) := by
  obtain ⟨c, cs, rfl, hc⟩ := h
  cases ps with
  | nil => exact ⟨c, cs, rfl, hc⟩
  | cons q ps => exact ⟨c, _, rfl, hc⟩

/-- Items with commas between them are read one by one, up to the closing bracket. -/
theorem items_separate {style : Style} (hstyle : style.Blank) (depth : Nat)
    {ps : List (List Char)} {vs : List Value} (h : List.Forall₂ Reads ps vs) (hne : ps ≠ [])
    {gap : List Char} (hgap : ∀ c ∈ gap, isSpace c = true) (rest : List Char) {fuel : Nat}
    (hf : (separate style depth ps).length < fuel) :
    items fuel (separate style depth ps ++ (gap ++ ']' :: rest)) = .ok (vs, rest) := by
  induction h generalizing fuel with
  | nil => exact absurd rfl hne
  | @cons p v ps vs hp h ih =>
      obtain ⟨fuel, rfl⟩ := Nat.exists_eq_succ_of_ne_zero (Nat.ne_zero_of_lt hf)
      cases h with
      | nil =>
          -- the last item ends at the bracket
          rw [separate] at hf ⊢
          rw [items, hp.reads fuel (by omega) _ (ends_gap hgap (by decide) rest)]
          simp only [Except.bind, skipSpace_append hgap, skipSpace_cons (c := ']') (by decide)]
      | @cons q w ps vs hq h =>
          have hstarts : Starts (separate style depth (q :: ps)) := starts_separate hq.starts ps
          rw [separate_cons_cons] at hf ⊢
          simp only [List.append_assoc, List.cons_append] at hf ⊢
          simp only [List.length_append, List.length_cons] at hf
          -- any other one ends at a comma
          rw [items, hp.reads fuel (by omega) _ (Ends.cons (by decide) _)]
          simp only [Except.bind, skipSpace_cons (c := ',') (by decide)]
          rw [skipSpace_append (isSpace_of_blank hstyle.comma),
            skipSpace_append (isSpace_lineBreak style depth), skipSpace_of_starts hstarts,
            ih (by simp) (by omega)]
          rfl

theorem skipSpace_separate (style : Style) (depth : Nat) {p : List Char} {ps : List (List Char)}
    (h : Starts (separate style depth (p :: ps))) (rest : List Char) :
    skipSpace (style.lineBreak depth ++ (separate style depth (p :: ps) ++ rest)) =
      separate style depth (p :: ps) ++ rest := by
  rw [skipSpace_append (isSpace_lineBreak style depth), skipSpace_of_starts h]

/-- **A list is read from its items.** -/
theorem reads_list {style : Style} (hstyle : style.Blank) (depth : Nat)
    {ps : List (List Char)} {vs : List Value} (h : List.Forall₂ Reads ps vs) :
    Reads (bracketed style depth '[' ']' ps) (.list vs) := by
  cases h with
  | nil => exact reads_word ⟨'[', _, rfl, by decide⟩ fun _ _ => rfl
  | @cons p v ps vs hp h =>
      have hstarts : Starts (separate style (depth + 1) (p :: ps)) := starts_separate hp.starts ps
      refine ⟨⟨'[', _, rfl, by decide⟩, fun fuel hf rest _ => ?_⟩
      have hlen := congrArg List.length (bracketed_cons style depth '[' ']' p ps [])
      simp only [List.append_nil, List.length_cons, List.length_append] at hlen
      obtain ⟨fuel, rfl⟩ := Nat.exists_eq_succ_of_ne_zero (show fuel ≠ 0 by omega)
      have hskip := skipSpace_separate style (depth + 1) hstarts
      rw [bracketed_cons, value_bracket fuel (by rw [hskip]; exact (hstarts.head_ne _).1), hskip,
        items_separate hstyle (depth + 1) (.cons hp h) (by simp)
          (isSpace_lineBreak style depth) rest (by omega)]
      rfl

/-! ### Tables -/

/-- The text of an entry: a literal for its key, and its value behind a colon. -/
def ReadsEntry (style : Style) (part : List Char) (e : Value × Value) : Prop :=
  ∃ key p, e.1 = .text (Literal.spelt style.asciiOnly key) ∧ Reads p e.2 ∧
    part = Literal.write style.asciiOnly key ++ ':' :: style.colonGap ++ p

theorem ReadsEntry.starts {style : Style} {part : List Char} {e : Value × Value}
    (h : ReadsEntry style part e) : Starts part := by
  obtain ⟨key, p, -, -, rfl⟩ := h
  exact ⟨'"', _, rfl, by decide⟩

/-- What is read behind an entry: the end of the table, or the next entry. -/
def behindEntry (fuel : Nat) (before : Entries) (rest : List Char) :
    Except Problem (Entries × List Char) :=
  match skipSpace rest with
  | '\x7d' :: rest => .ok (before, rest)
  | ',' :: rest => members fuel before (skipSpace rest)
  | rest => .error (.malformed .expectedComma rest)

/-- An entry is read up to the value's end. -/
theorem members_entry {style : Style} (hstyle : style.Blank) {part : List Char}
    {e : Value × Value} (h : ReadsEntry style part e) (before : Entries) {fuel : Nat}
    (hf : part.length ≤ fuel) {rest : List Char} (hrest : Ends rest) :
    members (fuel + 1) before (part ++ rest) =
      behindEntry fuel (before.put e.1 e.2) rest := by
  obtain ⟨k, v⟩ := e
  obtain ⟨key, p, rfl, hp, rfl⟩ := h
  obtain ⟨body, hw, hr⟩ := Literal.read_write style.asciiOnly key
  rw [hw] at hf ⊢
  simp only [List.append_assoc, List.cons_append, List.length_append, List.length_cons] at hf ⊢
  rw [members, literal, hr]
  simp only [Except.bind, skipSpace_cons (c := ':') (by decide)]
  rw [skipSpace_append (isSpace_of_blank hstyle.colon), skipSpace_of_starts hp.starts,
    hp.reads fuel (by omega) rest hrest]
  rfl

/-- Entries with commas between them are read one by one, up to the closing brace, and written into
those that were read before. -/
theorem members_separate {style : Style} (hstyle : style.Blank) (depth : Nat)
    {ps : List (List Char)} {es : Entries} (h : List.Forall₂ (ReadsEntry style) ps es)
    (hne : ps ≠ []) {gap : List Char} (hgap : ∀ c ∈ gap, isSpace c = true) (rest : List Char)
    (before : Entries) {fuel : Nat} (hf : (separate style depth ps).length < fuel) :
    members fuel before (separate style depth ps ++ (gap ++ '\x7d' :: rest)) =
      .ok (before.putAll es, rest) := by
  induction h generalizing fuel before with
  | nil => exact absurd rfl hne
  | @cons p e ps es hp h ih =>
      obtain ⟨fuel, rfl⟩ := Nat.exists_eq_succ_of_ne_zero (Nat.ne_zero_of_lt hf)
      cases h with
      | nil =>
          rw [separate] at hf ⊢
          rw [members_entry hstyle hp before (by omega) (ends_gap hgap (by decide) rest),
            behindEntry, skipSpace_append hgap, skipSpace_cons (c := '\x7d') (by decide)]
          rfl
      | @cons q f ps es hq h =>
          have hstarts : Starts (separate style depth (q :: ps)) := starts_separate hq.starts ps
          rw [separate_cons_cons] at hf ⊢
          simp only [List.append_assoc, List.cons_append] at hf ⊢
          simp only [List.length_append, List.length_cons] at hf
          rw [members_entry hstyle hp before (by omega) (Ends.cons (by decide) _), behindEntry,
            skipSpace_cons (c := ',') (by decide)]
          show members fuel (before.put e.1 e.2) (skipSpace _) = _
          rw [skipSpace_append (isSpace_of_blank hstyle.comma),
            skipSpace_append (isSpace_lineBreak style depth), skipSpace_of_starts hstarts]
          exact ih (by simp) _ (by omega)

/-- **A table is read from its entries**; of two under one key, the later one gives the value. -/
theorem reads_table {style : Style} (hstyle : style.Blank) (depth : Nat)
    {ps : List (List Char)} {es : Entries} (h : List.Forall₂ (ReadsEntry style) ps es) :
    Reads (bracketed style depth '\x7b' '\x7d' ps) (.table (Entries.putAll [] es)) := by
  cases h with
  | nil => exact reads_word ⟨'\x7b', _, rfl, by decide⟩ fun _ _ => rfl
  | @cons p e ps es hp h =>
      have hstarts : Starts (separate style (depth + 1) (p :: ps)) := starts_separate hp.starts ps
      refine ⟨⟨'\x7b', _, rfl, by decide⟩, fun fuel hf rest _ => ?_⟩
      have hlen := congrArg List.length (bracketed_cons style depth '\x7b' '\x7d' p ps [])
      simp only [List.append_nil, List.length_cons, List.length_append] at hlen
      obtain ⟨fuel, rfl⟩ := Nat.exists_eq_succ_of_ne_zero (show fuel ≠ 0 by omega)
      have hskip := skipSpace_separate style (depth + 1) hstarts
      rw [bracketed_cons, value_brace fuel (by rw [hskip]; exact (hstarts.head_ne _).2), hskip,
        members_separate hstyle (depth + 1) (.cons hp h) (by simp)
          (isSpace_lineBreak style depth) rest [] (by omega)]
      rfl

/-! ### Values of any depth -/

theorem writeItems_eq_ok_iff {style : Style} {depth : Nat} {vs : List Value}
    {ps : List (List Char)} : writeItems style depth vs = .ok ps ↔
      List.Forall₂ (fun v p => writeAt style depth v = .ok p) vs ps := by
  induction vs generalizing ps with
  | nil => simp [writeItems, eq_comm]
  | cons v vs ih =>
      simp only [writeItems, bind_eq_ok_iff, map_eq_ok_iff, ih, List.forall₂_cons_left_iff]
      constructor
      · rintro ⟨p, hp, qs, hqs, rfl⟩
        exact ⟨p, qs, hp, hqs, rfl⟩
      · rintro ⟨p, qs, hp, hqs, rfl⟩
        exact ⟨p, hp, qs, hqs, rfl⟩

/-- An entry is written as its key's literal and its value. -/
def WritesEntry (style : Style) (depth : Nat) (e : Value × Value) (part : List Char) : Prop :=
  ∃ key p, keyText style e.1 = .ok key ∧ writeAt style depth e.2 = .ok p ∧
    part = Literal.write style.asciiOnly key ++ ':' :: style.colonGap ++ p

theorem writeEntries_eq_ok_iff {style : Style} {depth : Nat} {es : Entries}
    {ps : List (List Char)} : writeEntries style depth es = .ok ps ↔
      List.Forall₂ (WritesEntry style depth) es ps := by
  induction es generalizing ps with
  | nil => simp [writeEntries, eq_comm]
  | cons e es ih =>
      simp only [writeEntries, bind_eq_ok_iff, map_eq_ok_iff, ih, List.forall₂_cons_left_iff]
      constructor
      · rintro ⟨key, hkey, p, hp, qs, hqs, rfl⟩
        exact ⟨_, qs, ⟨key, p, hkey, hp, rfl⟩, hqs, rfl⟩
      · rintro ⟨_, qs, ⟨key, p, hkey, hp, rfl⟩, hqs, rfl⟩
        exact ⟨key, hkey, p, hp, qs, hqs, rfl⟩

theorem spelt_of_ascii {style : Style} (hstyle : style.Ascii) (t : Text) :
    Literal.spelt style.asciiOnly t = t.joined := by
  rw [hstyle.escaped, Literal.spelt, if_pos rfl]

/-- **The text of a serializable value is read as what comes back of the value.** -/
theorem reads_writeAt {style : Style} (hstyle : style.Ascii) {v : Value}
    (hv : v.serializable = true) {depth : Nat} {p : List Char}
    (h : writeAt style depth v = .ok p) : Reads p v.reread := by
  induction v using Value.nested generalizing depth p with
  | none =>
      obtain rfl := Except.ok.inj h
      exact reads_none
  | bool b =>
      obtain rfl := Except.ok.inj h
      exact reads_bool b
  | int n => exact reads_number fun rest hrest => number_intText h hrest
  | float x =>
      obtain ⟨negative, m, rfl⟩ := Number.Double.isFinite_iff.1 hv
      rw [writeAt, floatText, if_pos (by simp [Number.Double.isFinite])] at h
      obtain rfl := Except.ok.inj h
      exact reads_number fun rest hrest => number_text numberLayout negative m hrest
  | text t =>
      obtain rfl := Except.ok.inj h
      rw [Value.reread, ← spelt_of_ascii hstyle t]
      exact reads_literal style.asciiOnly t
  | list items ih | tuple items ih =>
      simp only [Value.serializable_list, Value.serializable_tuple, List.all_eq_true] at hv
      obtain ⟨ps, hps, rfl⟩ := map_eq_ok_iff.1 h
      have hreads : List.Forall₂ (fun v p => Reads p v.reread) items ps := by
        refine ((List.forall₂_and_left _ _).2 ⟨fun _ => id, writeItems_eq_ok_iff.1 hps⟩).imp ?_
        exact fun v p hp => ih v hp.1 (hv v hp.1) hp.2
      simp only [Value.reread_list, Value.reread_tuple]
      exact reads_list hstyle.toBlank depth (List.forall₂_map_right_iff.2 hreads.flip)
  | table entries ih =>
      simp only [Value.serializable_table, List.all_eq_true, Bool.and_eq_true] at hv
      obtain ⟨ps, hps, rfl⟩ := map_eq_ok_iff.1 h
      have hreads : List.Forall₂
          (fun e p => ReadsEntry style p (e.1.joinedKey, e.2.reread)) entries ps := by
        refine ((List.forall₂_and_left _ _).2 ⟨fun _ => id, writeEntries_eq_ok_iff.1 hps⟩).imp ?_
        rintro e p ⟨he, key, q, hkey, hq, rfl⟩
        obtain ⟨t, ht⟩ := Value.isSome_text?_iff.1 (hv e he).1
        -- a key that is a text is written as it is
        obtain rfl : t = key := by
          rw [ht, keyText] at hkey
          exact Except.ok.inj hkey
        refine ⟨t, q, ?_, (ih e he).2 (hv e he).2 hq, rfl⟩
        rw [ht, Value.joinedKey, spelt_of_ascii hstyle]
      rw [Value.reread_table]
      exact reads_table hstyle.toBlank depth (List.forall₂_map_right_iff.2 hreads.flip)
  | octets _ | set _ _ | foreign _ | notFound => simp [Value.serializable] at hv

/-- What is read from a text is the document. -/
theorem read_of_reads {cs : List Char} {v : Value} (h : Reads cs v) : read cs = .ok v := by
  have hvalue := h.reads (fuelFor cs) (by rw [fuelFor]; omega) [] Ends.nil
  have hskip := skipSpace_of_starts h.starts []
  rw [List.append_nil] at hvalue hskip
  obtain ⟨c, cs, rfl, -, -, -, hc⟩ := h.starts
  have hdocument : document (c :: cs) = .ok v := by
    rw [document.eq_def]
    split
    · next heq => exact absurd (List.cons.inj heq).1 hc
    · rw [hskip, hvalue]
      rfl
  rw [read, hdocument]

/-- **A written document is read** as what comes back of the value. -/
theorem read_write {style : Style} (hstyle : style.Ascii) {v : Value}
    (hv : v.serializable = true) {cs : List Char} (h : write style v = .ok cs) :
    read cs = .ok v.reread :=
  read_of_reads (reads_writeAt hstyle hv h)

/-- The table under the texts of its keys. -/
def named (style : Style) (es : Entries) : Entries :=
  es.map fun e => (.text ((keyText style e.1).toOption.getD ⟨[]⟩), e.2)

/-- **A written table is read under the texts of its keys**; of two keys that are read as one text,
the later one gives the value. -/
theorem read_write_table {style : Style} (hstyle : style.Ascii) {es : Entries}
    (hes : ∀ e ∈ es, e.2.serializable = true) {cs : List Char}
    (h : write style (.table es) = .ok cs) :
    read cs = .ok (.table (named style es).reread) := by
  obtain ⟨ps, hps, rfl⟩ := map_eq_ok_iff.1 h
  have hreads : List.Forall₂ (fun e p => ReadsEntry style p
      (.text ((keyText style e.1).toOption.getD ⟨[]⟩).joined, e.2.reread)) es ps := by
    refine ((List.forall₂_and_left _ _).2 ⟨fun _ => id, writeEntries_eq_ok_iff.1 hps⟩).imp ?_
    rintro e p ⟨he, key, q, hkey, hq, rfl⟩
    refine ⟨key, q, ?_, reads_writeAt hstyle (hes e he) hq, rfl⟩
    rw [hkey, spelt_of_ascii hstyle]
    rfl
  rw [named, Entries.reread, List.map_map]
  exact read_of_reads (reads_table hstyle.toBlank 0 (List.forall₂_map_right_iff.2 hreads.flip))

end Tiered.Json
