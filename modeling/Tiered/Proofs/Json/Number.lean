import Mathlib
import Tiered.Json.Reader
import Tiered.Json.Writer
import Tiered.Proofs.Number.ReadBack

/-!
# Number — written numbers are read back

A number is read as far as it goes, so what follows it must not continue it (`Ends`).

* `number_intText`: a whole number that has a text is read from it.
* `number_decimal`: a decimal is read as the double nearest to it, in whatever layout it was
  written.
* `number_text`: a finite double is read from its text, with its sign.
-/

namespace Tiered.Json
open Number (Double DecimalFraction Layout Magnitude)
open Number.Decimal (isDigit)

/-! ### Where a number ends -/

/-- What follows does not begin with a digit. -/
def NoDigit (rest : List Char) : Prop := ∀ c ∈ rest.head?, isDigit c = false

/-- What follows does not continue a number. -/
def Ends (rest : List Char) : Prop :=
  ∀ c ∈ rest.head?, isDigit c = false ∧ c ≠ '.' ∧ c ≠ 'e' ∧ c ≠ 'E'

theorem Ends.nil : Ends [] := fun _ h => by simp at h

theorem Ends.cons {c : Char} (h : isDigit c = false ∧ c ≠ '.' ∧ c ≠ 'e' ∧ c ≠ 'E')
    (rest : List Char) : Ends (c :: rest) := by
  intro d hd
  obtain rfl : c = d := by simpa using hd
  exact h

theorem Ends.noDigit {rest : List Char} (h : Ends rest) : NoDigit rest := fun c hc => (h c hc).1

theorem noDigit_cons {c : Char} (h : isDigit c = false) (rest : List Char) :
    NoDigit (c :: rest) := by
  intro d hd
  obtain rfl : c = d := by simpa using hd
  exact h

/-! ### The parts of a number -/

theorem digits_append {ds rest : List Char} (hds : ∀ c ∈ ds, isDigit c = true)
    (hrest : NoDigit rest) : Number.Reading.digits (ds ++ rest) = (ds, rest) := by
  have htake : rest.takeWhile isDigit = [] := by
    cases rest with
    | nil => rfl
    | cons c rest => simp [hrest c rfl]
  have hdrop : rest.dropWhile isDigit = rest := by
    cases rest with
    | nil => rfl
    | cons c rest => simp [hrest c rfl]
  rw [Number.Reading.digits, List.takeWhile_append_of_pos hds, List.dropWhile_append_of_pos hds,
    htake, hdrop, List.append_nil]

/-- The digits before a point: a zero alone, or digits that begin with another. -/
structure Whole (ds : List Char) : Prop where
  digits : ∀ c ∈ ds, isDigit c = true
  first : ds = ['0'] ∨ ∃ c cs, ds = c :: cs ∧ c ≠ '0'

theorem whole_zero : Whole ['0'] := ⟨fun _ h => List.mem_singleton.1 h ▸ rfl, .inl rfl⟩

theorem Whole.append {ds zs : List Char} (h : ∃ c cs, ds = c :: cs ∧ c ≠ '0')
    (hds : ∀ c ∈ ds, isDigit c = true) (hzs : ∀ c ∈ zs, isDigit c = true) : Whole (ds ++ zs) := by
  obtain ⟨c, cs, rfl, hc⟩ := h
  refine ⟨fun d hd => ?_, .inr ⟨c, cs ++ zs, rfl, hc⟩⟩
  rcases List.mem_append.1 hd with hd | hd
  · exact hds d hd
  · exact hzs d hd

theorem whole_digits {n : Nat} (hn : n ≠ 0) : Whole (Number.Decimal.digits n) :=
  ⟨fun _ => Number.Decimal.isDigit_of_mem_digits, .inr (Number.Decimal.head_digits hn)⟩

theorem whole_digits_or_zero (n : Nat) : Whole (Number.Decimal.digits n) := by
  rcases eq_or_ne n 0 with rfl | hn
  · rw [Number.Decimal.digits_of_lt_ten (by decide)]
    exact whole_zero
  · exact whole_digits hn

/-- Before a point stands no minus. -/
theorem Whole.head_ne_minus {ds : List Char} (h : Whole ds) (rest : List Char) :
    (ds ++ rest).head? ≠ some '-' := by
  intro hm
  have hmem : '-' ∈ ds := by
    rcases h.first with rfl | ⟨c, cs, rfl, -⟩
    · simp at hm
    · simp only [List.cons_append, List.head?_cons, Option.some.injEq] at hm
      simp [hm]
  exact absurd (h.digits _ hmem) (by decide)

theorem wholeDigits?_append {ds rest : List Char} (h : Whole ds) (hrest : NoDigit rest) :
    wholeDigits? (ds ++ rest) = some (ds, rest) := by
  obtain ⟨hds, rfl | ⟨c, cs, rfl, hc⟩⟩ := h
  · rfl
  · have hd := digits_append hds hrest
    rw [List.cons_append] at hd ⊢
    rw [wholeDigits?.eq_def]
    split
    · next heq => exact absurd (List.cons.inj heq).1 hc
    · simp [hd]

theorem fractionDigits_append {fs rest : List Char} (hne : fs ≠ [])
    (hfs : ∀ c ∈ fs, isDigit c = true) (hrest : NoDigit rest) :
    fractionDigits ('.' :: (fs ++ rest)) = (fs, rest) := by
  rw [fractionDigits, digits_append hfs hrest]
  cases fs with
  | nil => exact absurd rfl hne
  | cons c fs => rfl

theorem fractionDigits_of_ne {rest : List Char} (h : rest.head? ≠ some '.') :
    fractionDigits rest = ([], rest) := by
  rw [fractionDigits.eq_def]
  split
  · simp at h
  · rfl

theorem exponentPart_of_ends {rest : List Char} (h : Ends rest) :
    exponentPart rest = (none, rest) := by
  cases rest with
  | nil => rfl
  | cons c rest =>
      obtain ⟨-, -, he, hE⟩ := h c rfl
      simp [exponentPart, he, hE]

/-- An exponent is read with its sign. -/
theorem exponentPart_append (negative : Bool) {es rest : List Char} (hne : es ≠ [])
    (hes : ∀ c ∈ es, isDigit c = true) (hrest : NoDigit rest) :
    exponentPart ('e' :: (if negative then '-' else '+') :: (es ++ rest)) =
      (some (if negative then -(Number.Decimal.value es : Int) else Number.Decimal.value es),
        rest) := by
  have hd := digits_append hes hrest
  cases es with
  | nil => exact absurd rfl hne
  | cons e es =>
      cases negative
      all_goals
        simp only [exponentPart, true_or, if_true, Bool.false_eq_true, if_false,
          Number.Reading.sign, hd]

/-! ### A number from its parts -/

theorem signed_append (negative : Bool) (text rest : List Char) :
    Layout.signed negative text ++ rest = Layout.signed negative (text ++ rest) := by
  cases negative <;> rfl

/-- A number is read part by part behind its sign. -/
theorem number_signed (negative : Bool) {body whole fraction rest₀ rest₁ rest : List Char}
    {exponent? : Option Int} (hminus : body.head? ≠ some '-')
    (hw : wholeDigits? body = some (whole, rest₀)) (hf : fractionDigits rest₀ = (fraction, rest₁))
    (he : exponentPart rest₁ = (exponent?, rest)) :
    number (Layout.signed negative body) =
      if fraction.isEmpty && exponent?.isNone then
        if Number.Decimal.maxDigits < whole.length then .error (.overlong whole.length)
        else .ok (.int (if negative then -(Number.Decimal.value whole : Int)
          else Number.Decimal.value whole), rest)
      else .ok (.float (Number.Reading.Parts.toDouble negative
        ⟨whole, fraction, exponent?.getD 0⟩), rest) := by
  cases negative with
  | true =>
      rw [Layout.signed, if_pos rfl]
      delta number
      simp only [hw, hf, he, if_true]
  | false =>
      rw [Layout.signed, if_neg Bool.false_ne_true]
      cases body with
      | nil => simp [wholeDigits?, Number.Reading.digits] at hw
      | cons c body =>
          have hc : c ≠ '-' := fun h => hminus (h ▸ rfl)
          delta number
          split
          next heq =>
            split at heq
            · exact absurd (List.cons.inj (by assumption)).1 hc
            · obtain ⟨rfl, rfl⟩ := Prod.mk.inj heq
              simp only [hw, hf, he, Bool.false_eq_true, if_false]

theorem intText_eq_ok_iff {n : Int} {cs : List Char} :
    intText n = .ok cs ↔ (Number.Decimal.digits n.natAbs).length ≤ Number.Decimal.maxDigits ∧
      Layout.signed (decide (n < 0)) (Number.Decimal.digits n.natAbs) = cs := by
  have hsigned : Layout.signed (decide (n < 0)) (Number.Decimal.digits n.natAbs) =
      if n < 0 then '-' :: Number.Decimal.digits n.natAbs else Number.Decimal.digits n.natAbs := by
    simp [Layout.signed]
  rw [hsigned, ← Number.Decimal.text?_eq_some_iff]
  delta intText
  cases Number.Decimal.text? n <;> simp

/-- A whole number is read from its text. -/
theorem number_intText {n : Int} {cs rest : List Char} (h : intText n = .ok cs)
    (hrest : Ends rest) : number (cs ++ rest) = .ok (.int n, rest) := by
  obtain ⟨hlen, rfl⟩ := intText_eq_ok_iff.1 h
  have hwhole := whole_digits_or_zero n.natAbs
  have hdot : rest.head? ≠ some '.' := fun hd => (hrest '.' hd).2.1 rfl
  rw [signed_append, number_signed (decide (n < 0)) (hwhole.head_ne_minus rest)
    (wholeDigits?_append hwhole hrest.noDigit) (fractionDigits_of_ne hdot)
    (exponentPart_of_ends hrest)]
  simp only [List.isEmpty_nil, Option.isNone_none, Bool.and_self, if_true,
    if_neg (Nat.not_lt.2 hlen), Number.Decimal.value_digits, decide_eq_true_eq]
  have hn : (if n < 0 then -(n.natAbs : Int) else n.natAbs) = n := by
    split <;> omega
  rw [hn]

/-- Digits with a point among them are read as a double. -/
theorem number_pointed (negative : Bool) {whole fraction rest : List Char} (hw : Whole whole)
    (hne : fraction ≠ []) (hf : ∀ c ∈ fraction, isDigit c = true) (hrest : Ends rest) :
    number (Layout.signed negative (whole ++ '.' :: fraction) ++ rest) =
      .ok (.float (Double.ofDecimal negative (Number.Decimal.value (whole ++ fraction))
        (-fraction.length)), rest) := by
  rw [signed_append, List.append_assoc, List.cons_append,
    number_signed negative (hw.head_ne_minus _)
      (wholeDigits?_append hw (noDigit_cons (by decide) _))
      (fractionDigits_append hne hf hrest.noDigit) (exponentPart_of_ends hrest)]
  have hempty : fraction.isEmpty = false := by simpa using hne
  simp [hempty, Number.Reading.Parts.toDouble]

/-- Digits with an exponent behind them are read as a double, with a point or without. -/
theorem number_scientific (negative low : Bool) {whole fraction size rest : List Char}
    (hw : Whole whole) (hf : ∀ c ∈ fraction, isDigit c = true) (hne : size ≠ [])
    (hs : ∀ c ∈ size, isDigit c = true) (hrest : Ends rest) :
    number (Layout.signed negative (whole ++ (if fraction = [] then [] else '.' :: fraction) ++
        'e' :: (if low then '-' else '+') :: size) ++ rest) =
      .ok (.float (Double.ofDecimal negative (Number.Decimal.value (whole ++ fraction))
        ((if low then -(Number.Decimal.value size : Int) else Number.Decimal.value size) -
          fraction.length)), rest) := by
  have he := exponentPart_append low hne hs hrest.noDigit
  generalize hmark : 'e' :: (if low then '-' else '+') :: size = mark at *
  have hstart : mark ++ rest = 'e' :: (if low then '-' else '+') :: (size ++ rest) := by
    rw [← hmark]
    rfl
  rw [← hstart] at he
  have hfraction : fractionDigits ((if fraction = [] then [] else '.' :: fraction) ++
      (mark ++ rest)) = (fraction, mark ++ rest) := by
    split
    · next h =>
        rw [h, List.nil_append, fractionDigits_of_ne (by rw [hstart]; simp)]
    · next h =>
        rw [List.cons_append, fractionDigits_append h hf (hstart ▸ noDigit_cons (by decide) _)]
  have hnoDigit : NoDigit ((if fraction = [] then [] else '.' :: fraction) ++ (mark ++ rest)) := by
    split
    · exact hstart ▸ noDigit_cons (by decide) _
    · exact noDigit_cons (by decide) _
  rw [signed_append, List.append_assoc, List.append_assoc,
    number_signed negative (hw.head_ne_minus _) (wholeDigits?_append hw hnoDigit) hfraction he]
  simp [Number.Reading.Parts.toDouble]

/-! ### Decimals in a layout -/

theorem isDigit_of_mem_replicate {k : Nat} {c : Char} (h : c ∈ List.replicate k '0') :
    isDigit c = true := by
  rw [List.eq_of_mem_replicate h]
  rfl

theorem isDigit_of_mem_append {a b : List Char} (ha : ∀ c ∈ a, isDigit c = true)
    (hb : ∀ c ∈ b, isDigit c = true) : ∀ c ∈ a ++ b, isDigit c = true := by
  intro c hc
  rcases List.mem_append.1 hc with hc | hc
  · exact ha c hc
  · exact hb c hc

section Positional

variable (negative : Bool) {ds rest : List Char} (hdigits : ∀ c ∈ ds, isDigit c = true)
  (hfirst : ∃ c cs, ds = c :: cs ∧ c ≠ '0') (hrest : Ends rest)

include hdigits hrest

/-- The point stands before the digits, with zeros between. -/
theorem number_point_before (hne : ds ≠ []) (k : Nat) :
    number (Layout.signed negative (['0'] ++ '.' :: (List.replicate k '0' ++ ds)) ++ rest) =
      .ok (.float (Double.ofDecimal negative (Number.Decimal.value ds) (-(k + ds.length))),
        rest) := by
  have hzeros := isDigit_of_mem_append (fun _ => isDigit_of_mem_replicate (k := k)) hdigits
  have hval : Number.Decimal.value (['0'] ++ (List.replicate k '0' ++ ds)) =
      Number.Decimal.value ds := by
    rw [Number.Decimal.value_append, Number.Decimal.value_zeros_append]
    simp [Number.Decimal.value, Number.Decimal.push]
  rw [number_pointed negative whole_zero (by simp [hne]) hzeros hrest, hval, List.length_append,
    List.length_replicate, Nat.cast_add]

include hfirst

/-- The point stands behind the digits, with zeros between. -/
theorem number_point_behind (k : Nat) :
    number (Layout.signed negative (ds ++ List.replicate k '0' ++ '.' :: ['0']) ++ rest) =
      .ok (.float (Double.ofDecimal negative (Number.Decimal.value ds) k), rest) := by
  have hwhole := Whole.append hfirst hdigits (fun _ => isDigit_of_mem_replicate (k := k))
  have hval : Number.Decimal.value (ds ++ List.replicate k '0' ++ ['0']) =
      Number.Decimal.value ds * 10 ^ (k + 1) := by
    rw [List.append_assoc, ← List.replicate_succ', Number.Decimal.value_append_zeros]
  have hexp : -((['0'] : List Char).length : Int) = k - (k + 1 : Nat) := by
    simp only [List.length_singleton]
    omega
  rw [number_pointed negative hwhole (List.cons_ne_nil '0' [])
    (fun _ h => List.mem_singleton.1 h ▸ rfl) hrest, hval, hexp, Double.ofDecimal_mul_pow]

/-- The point stands among the digits. -/
theorem number_point_among {k : Nat} (hk : 0 < k) (hlen : k < ds.length) :
    number (Layout.signed negative (ds.take k ++ '.' :: ds.drop k) ++ rest) =
      .ok (.float (Double.ofDecimal negative (Number.Decimal.value ds) (k - ds.length)),
        rest) := by
  have htake : Whole (ds.take k) := by
    obtain ⟨c, cs, rfl, hc⟩ := hfirst
    obtain ⟨k, rfl⟩ := Nat.exists_eq_succ_of_ne_zero hk.ne'
    exact ⟨fun d hd => hdigits d (List.mem_of_mem_take hd), .inr ⟨c, _, rfl, hc⟩⟩
  have hne : ds.drop k ≠ [] := by
    rw [← List.length_pos_iff, List.length_drop]
    omega
  have hexp : -((ds.drop k).length : Int) = k - ds.length := by
    rw [List.length_drop]
    omega
  rw [number_pointed negative htake hne (fun d hd => hdigits d (List.mem_of_mem_drop hd)) hrest,
    List.take_append_drop, hexp]

end Positional

/-- A decimal is read from its positional form, wherever the point stands. -/
theorem number_positional (negative : Bool) {n : Nat} (hn : n ≠ 0) (e : Int) {rest : List Char}
    (hrest : Ends rest) :
    number (Layout.signed negative (Layout.positional (Number.Decimal.digits n)
        ((Number.Decimal.digits n).length + e)) ++ rest) =
      .ok (.float (Double.ofDecimal negative n e), rest) := by
  have hdigits : ∀ c ∈ Number.Decimal.digits n, isDigit c = true :=
    fun _ => Number.Decimal.isDigit_of_mem_digits
  have hvalue := Number.Decimal.value_digits n
  have hfirst := Number.Decimal.head_digits hn
  have hpos := Number.Decimal.length_digits_pos n
  -- of the digits only these facts are used
  generalize Number.Decimal.digits n = ds at *
  subst hvalue
  rw [Layout.positional]
  split_ifs with hleft hright
  · have hexp : -(((-(ds.length + e)).toNat : Int) + ds.length) = e := by omega
    have hread := number_point_before negative hdigits hrest (List.length_pos_iff.1 hpos)
      (-(ds.length + e)).toNat
    rwa [hexp] at hread
  · have hexp : (((ds.length + e - ds.length).toNat : Nat) : Int) = e := by omega
    have hread := number_point_behind negative hdigits hfirst hrest
      (ds.length + e - ds.length).toNat
    rwa [hexp] at hread
  · have hexp : (((ds.length + e).toNat : Nat) : Int) - ds.length = e := by omega
    have hread := number_point_among negative hdigits hfirst hrest
      (k := (ds.length + e).toNat) (by omega) (by omega)
    rwa [hexp] at hread

/-- A decimal is read from its form with an exponent. -/
theorem number_withExponent (layout : Layout) (negative : Bool) {n : Nat} (hn : n ≠ 0) (e : Int)
    {rest : List Char} (hrest : Ends rest) :
    number (Layout.signed negative (layout.scientific (Number.Decimal.digits n)
        ((Number.Decimal.digits n).length + e - 1)) ++ rest) =
      .ok (.float (Double.ofDecimal negative n e), rest) := by
  have hdigits : ∀ c ∈ Number.Decimal.digits n, isDigit c = true :=
    fun _ => Number.Decimal.isDigit_of_mem_digits
  have hvalue := Number.Decimal.value_digits n
  obtain ⟨c, cs, hds, hc⟩ := Number.Decimal.head_digits hn
  rw [hds] at hdigits hvalue ⊢
  subst hvalue
  have hlen : ((c :: cs).length : Int) + e - 1 = cs.length + e := by
    simp only [List.length_cons]
    omega
  have hwhole : Whole [c] :=
    ⟨fun d hd => hdigits d (by simp_all), .inr ⟨c, [], rfl, hc⟩⟩
  have hsize := isDigit_of_mem_append
    (fun _ => isDigit_of_mem_replicate (k := layout.exponentDigits -
      (Number.Decimal.digits (cs.length + e).natAbs).length))
    (fun _ => Number.Decimal.isDigit_of_mem_digits (n := (cs.length + e).natAbs))
  have hne : List.replicate (layout.exponentDigits -
      (Number.Decimal.digits (cs.length + e).natAbs).length) '0' ++
      Number.Decimal.digits (cs.length + e).natAbs ≠ [] := by
    simp [Number.Decimal.digits_ne_nil]
  have hnum := number_scientific negative (decide (cs.length + e < 0)) hwhole
    (fun d hd => hdigits d (List.mem_cons_of_mem c hd)) hne hsize hrest
  have hexp : (if decide ((cs.length : Int) + e < 0) = true then
      -(((cs.length + e).natAbs : Nat) : Int) else ((cs.length + e).natAbs : Nat)) - cs.length =
      e := by
    simp only [decide_eq_true_eq]
    split <;> omega
  rw [Number.Decimal.value_zeros_append, Number.Decimal.value_digits, hexp] at hnum
  rw [hlen, Layout.scientific]
  cases cs with
  | nil => simpa using hnum
  | cons d cs => simpa using hnum

/-- **A decimal is read as the double nearest to it**, in whatever layout it was written. -/
theorem number_decimal (layout : Layout) (negative : Bool) (d : DecimalFraction)
    {rest : List Char} (hrest : Ends rest) :
    number (Layout.signed negative (layout.decimal d) ++ rest) =
      .ok (.float (Double.ofDecimal negative d.coefficient d.exponent), rest) := by
  rw [Layout.decimal]
  split_ifs with hzero
  · have hnum := number_pointed negative whole_zero (List.cons_ne_nil '0' [])
      (fun _ h => List.mem_singleton.1 h ▸ rfl) hrest
    simpa [Double.ofDecimal, hzero, Number.Decimal.value, Number.Decimal.push] using hnum
  · exact number_positional negative hzero d.exponent hrest
  · exact number_withExponent layout negative hzero d.exponent hrest

/-- **A finite double is read from its text.** -/
theorem number_text (layout : Layout) (negative : Bool) (m : Magnitude) {rest : List Char}
    (hrest : Ends rest) :
    number (layout.text (.finite negative m) ++ rest) =
      .ok (.float (.finite negative m), rest) := by
  rw [Layout.text, number_decimal layout negative m.shortest hrest, Number.ofDecimal_shortest]

end Tiered.Json
