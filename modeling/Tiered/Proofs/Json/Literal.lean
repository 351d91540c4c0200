import Mathlib
import Tiered.Json.Literal
import Tiered.Proofs.Result
import Tiered.Proofs.Text.Joined

/-!
# Literal — what a written literal is read as

Each code point is written in a form that the reader turns into the same code point, whether it is
escaped by a letter, by its number, by the numbers of a pair, or not at all (`codes_escapeCode`,
`codes_escapeChar`).  Only behind an escaped high surrogate does the reader join what it reads.  So
a literal of ASCII is read as the text with its pairs joined, and one of any characters as these
characters (`read_write`).
-/

namespace Tiered.Json.Literal
open Tiered.Text

/-! ### One step of the reader -/

theorem codes_letter (start : List Char) {c : Char} {u : Code} (hc : code? c = some u)
    (rest : List Char) :
    codes start ('\\' :: c :: rest) = (codes start rest).map fun r => (u :: r.1, r.2) := by
  have hu : c ≠ 'u' := by
    rintro rfl
    simp [code?] at hc
  rw [codes.eq_def]
  split
  · next h => simp at h
  · next h => simp at h
  · next h => simp at h
  · next h => exact absurd (List.cons.inj (List.cons.inj h).2).1 hu
  · next heq =>
      obtain ⟨rfl, rfl⟩ := List.cons.inj (List.cons.inj heq).2
      simp [hu, hc]
  · next hno h =>
      obtain ⟨rfl, rfl⟩ := List.cons.inj h
      exact absurd rfl (hno c rest rfl)

theorem codes_numeric (start : List Char) {n : Nat} (hn : n < 0x10000) {rest : List Char}
    (h : rest ≠ []) : codes start (numeric n ++ rest) =
      (codes start rest).map fun r => (joinOnto (code n) r.1, r.2) := by
  obtain ⟨e, rest, rfl⟩ := List.exists_cons_of_ne_nil h
  have hlen := Hex.length_digits 4 n
  have hval := Hex.value?_digits 4 n
  rw [Nat.mod_eq_of_lt (show n < Nat.pow 16 4 from hn)] at hval
  rw [numeric]
  generalize Hex.digits 4 n = ds at hlen hval
  obtain ⟨a, b, c, d, rfl⟩ := List.length_eq_four.1 hlen
  simp only [List.cons_append, List.nil_append]
  rw [codes, hval]

theorem codes_plain (start : List Char) {c : Char} (hq : c ≠ '"') (hb : c ≠ '\\')
    (hc : 32 ≤ c.toNat) (rest : List Char) :
    codes start (c :: rest) = (codes start rest).map fun r => (code c.toNat :: r.1, r.2) := by
  rw [codes.eq_def]
  split
  · next h => simp at h
  · next h => exact absurd (List.cons.inj h).1 hq
  · next h => exact absurd (List.cons.inj h).1 hb
  · next h => exact absurd (List.cons.inj h).1 hb
  · next h => exact absurd (List.cons.inj h).1 hb
  · next h =>
      obtain ⟨rfl, rfl⟩ := List.cons.inj h
      rw [if_neg (by omega)]

/-! ### The letters -/

/-- A letter is read as the character that it was written for. -/
theorem code?_of_letter? {c l : Char} (h : letter? c = some l) :
    code? l = some (code c.toNat) ∧ c ≠ '\x00' ∧ c.toNat < 0x80 := by
  simp only [letter?] at h
  split_ifs at h with h₁ h₂ h₃ h₄ h₅ h₆
  · rcases h₁ with rfl | rfl
    all_goals
      obtain rfl := Option.some.inj h
      decide
  all_goals
    subst c
    obtain rfl := Option.some.inj h
    decide

theorem ne_of_letter?_none {c : Char} (h : letter? c = none) : c ≠ '"' ∧ c ≠ '\\' := by
  constructor
  all_goals
    rintro rfl
    simp [letter?] at h

theorem toNat_ofNat_char {n : Nat} (h : Char.ofNat n ≠ '\x00') : (Char.ofNat n).toNat = n := by
  rw [Char.toNat_ofNat]
  split
  · rfl
  · next hn =>
      rw [Char.ofNat, dif_neg hn] at h
      exact absurd rfl h

/-! ### Code points -/

/-- A code point is read as it was written, and joined to what is read behind it. -/
theorem codes_escapeCode (start : List Char) (u : Code) {rest : List Char} (h : rest ≠ []) :
    codes start (escapeCode u ++ rest) =
      (codes start rest).map fun r => (joinOnto u r.1, r.2) := by
  simp only [escapeCode]
  cases hl : letter? (Char.ofNat u.val) with
  | some l =>
      obtain ⟨hu, hz, hlt⟩ := code?_of_letter? hl
      have hn := toNat_ofNat_char hz
      rw [hn] at hu hlt
      rw [code_val] at hu
      simp only [joinOnto_of_not_surrogate (isSurrogate_of_lt (show u.val < 0xD800 by omega))]
      exact codes_letter start hu rest
  | none =>
      dsimp only
      split_ifs with hp hlt
      · -- a printable character of ASCII is written as it is
        simp only [Bool.and_eq_true, decide_eq_true_eq] at hp
        obtain ⟨hq, hb⟩ := ne_of_letter?_none hl
        have hn : (Char.ofNat u.val).toNat = u.val := by
          rw [Char.toNat_ofNat, if_pos (Or.inl (by omega))]
        have hplain := codes_plain start hq hb (by omega) rest
        rw [hn, code_val] at hplain
        simp only [joinOnto_of_not_surrogate (isSurrogate_of_lt (show u.val < 0xD800 by omega))]
        exact hplain
      · have hnumeric := codes_numeric start hlt h
        rw [code_val] at hnumeric
        exact hnumeric
      · -- the two halves of a pair are read as the character
        have hle : 0x10000 ≤ u.val := Nat.le_of_not_lt hlt
        obtain ⟨hhigh, hlow⟩ := halves_lt u.isLt
        rw [List.append_assoc, codes_numeric start hhigh (by simp [numeric]),
          codes_numeric start hlow h, map_map]
        simp only [joinOnto_halves hle]

/-- A character is read as its number. -/
theorem codes_escapeChar (start : List Char) (c : Char) {rest : List Char} (h : rest ≠ []) :
    codes start (escapeChar c ++ rest) =
      (codes start rest).map fun r => (code c.toNat :: r.1, r.2) := by
  rw [escapeChar]
  cases hl : letter? c with
  | some l => exact codes_letter start (code?_of_letter? hl).1 rest
  | none =>
      obtain ⟨hq, hb⟩ := ne_of_letter?_none hl
      dsimp only
      split_ifs with hlt
      · rw [codes_numeric start (by omega) h]
        have hs : isSurrogate (code c.toNat) = false := by
          rw [val_code (by omega)]
          exact isSurrogate_char c
        simp only [joinOnto_of_not_surrogate hs]
      · exact codes_plain start hq hb (by omega) rest

/-! ### Whole literals -/

/-- Parts that are read one behind the other, up to the closing quote. -/
theorem codes_flatMap {α : Type} (start : List Char) (escape : α → List Char)
    (onto : α → List Code → List Code) {xs : List α}
    (hstep : ∀ x ∈ xs, ∀ rest, rest ≠ [] → codes start (escape x ++ rest) =
      (codes start rest).map fun r => (onto x r.1, r.2)) (rest : List Char) :
    codes start (xs.flatMap escape ++ '"' :: rest) = .ok (xs.foldr onto [], rest) := by
  induction xs with
  | nil => simp [codes]
  | cons x xs ih =>
      rw [List.flatMap_cons, List.append_assoc, hstep x (by simp) _ (by simp),
        ih fun y hy => hstep y (by simp [hy])]
      rfl

/-- The text that the literal of a text is read as. -/
def spelt (asciiOnly : Bool) (t : Text) : Text := if asciiOnly then t.joined else .ofChars t.chars

/-- **A written literal is read**, and what follows it is left. -/
theorem read_write (asciiOnly : Bool) (t : Text) : ∃ body, write asciiOnly t = '"' :: body ∧
    ∀ start rest, read start (body ++ rest) = .ok (spelt asciiOnly t, rest) := by
  refine ⟨(if asciiOnly then t.codes.flatMap escapeCode else t.chars.flatMap escapeChar) ++ ['"'],
    rfl, fun start rest => ?_⟩
  rw [List.append_assoc, List.singleton_append, read]
  cases asciiOnly with
  | true =>
      rw [if_pos rfl, codes_flatMap start escapeCode joinOnto
        fun u _ _ hne => codes_escapeCode start u hne]
      rfl
  | false =>
      rw [if_neg Bool.false_ne_true, codes_flatMap start escapeChar (fun c => (code c.toNat :: ·))
        fun c _ _ hne => codes_escapeChar start c hne]
      have hchars : t.chars.foldr (fun c => (code c.toNat :: ·)) [] = (ofChars t.chars).codes := by
        simp [ofChars, ofNumbers]
      rw [hchars]
      rfl

/-! ### What is read holds no pair -/

theorem not_surrogate_of_code? {c : Char} {u : Code} (h : code? c = some u) :
    isSurrogate u = false := by
  rw [code?.eq_def] at h
  split at h
  case h_9 => exact absurd h (by simp)
  all_goals
    obtain rfl := Option.some.inj h
    rfl

/-- **No pair is left in what is read**, wherever the text is from. -/
theorem isChain_of_codes {start cs rest : List Char} {us : List Code}
    (h : codes start cs = .ok (us, rest)) : us.IsChain Apart := by
  fun_induction codes start cs generalizing us rest with
  | case1 | case3 | case4 | case6 | case7 | case9 => exact absurd h (by simp)
  | case2 =>
      obtain ⟨rfl, -⟩ := Prod.mk.inj (Except.ok.inj h)
      exact .nil
  | case5 _ _ _ _ _ _ n _ ih =>
      obtain ⟨⟨vs, _⟩, hvs, hr⟩ := map_eq_ok_iff.1 h
      obtain ⟨rfl, -⟩ := Prod.mk.inj hr
      exact isChain_joinOnto (ih hvs) _
  | case8 _ _ _ _ u hu ih =>
      obtain ⟨⟨vs, _⟩, hvs, hr⟩ := map_eq_ok_iff.1 h
      obtain ⟨rfl, -⟩ := Prod.mk.inj hr
      rw [← joinOnto_of_not_surrogate (not_surrogate_of_code? hu)]
      exact isChain_joinOnto (ih hvs) u
  | case10 c _ _ _ _ _ _ ih =>
      obtain ⟨⟨vs, _⟩, hvs, hr⟩ := map_eq_ok_iff.1 h
      obtain ⟨rfl, -⟩ := Prod.mk.inj hr
      have hc : isSurrogate (code c.toNat) = false := by
        rw [val_code (toNat_lt c)]
        exact isSurrogate_char c
      rw [← joinOnto_of_not_surrogate hc]
      exact isChain_joinOnto (ih hvs) _

/-! ### Texts with one literal -/

/-- Above ASCII a code point is escaped by its number or by those of its halves. -/
theorem escapeCode_of_le {u : Code} (h : 0x80 ≤ u.val) : escapeCode u =
    if u.val < 0x10000 then numeric u else numeric (highHalf u) ++ numeric (lowHalf u) := by
  simp only [escapeCode]
  cases hl : letter? (Char.ofNat u.val) with
  | some l =>
      obtain ⟨-, hz, hlt⟩ := code?_of_letter? hl
      rw [toNat_ofNat_char hz] at hlt
      omega
  | none =>
      dsimp only
      rw [if_neg]
      simp only [Bool.and_eq_true, decide_eq_true_eq]
      omega

/-- Joined or not, a pair is escaped by the numbers of its halves. -/
theorem escapeCode_pairCode {u v : Code} (hu : isHigh u = true) (hv : isLow v = true) :
    escapeCode (pairCode u v) = escapeCode u ++ escapeCode v := by
  rw [isHigh_iff] at hu
  rw [isLow_iff] at hv
  have hle : 0x10000 ≤ (pairCode u v).val := Nat.le_add_left _ _
  have hhigh : highHalf (pairCode u v) = u := by
    simp only [highHalf, pairCode]
    omega
  have hlow : lowHalf (pairCode u v) = v := by
    simp only [lowHalf, pairCode]
    omega
  rw [escapeCode_of_le (by omega), escapeCode_of_le (by omega), escapeCode_of_le (by omega),
    if_neg (by omega), if_pos (by omega), if_pos (by omega), hhigh, hlow]

theorem flatMap_joinOnto (u : Code) (us : List Code) :
    (joinOnto u us).flatMap escapeCode = escapeCode u ++ us.flatMap escapeCode := by
  cases us with
  | nil => simp [joinOnto]
  | cons v us =>
      rw [joinOnto]
      split
      · next h =>
          rw [Bool.and_eq_true] at h
          rw [List.flatMap_cons, escapeCode_pairCode h.1 h.2, List.append_assoc, List.flatMap_cons]
      · rfl

/-- The literal of a text does not show which pairs are joined. -/
theorem write_joined (t : Text) : write true t.joined = write true t := by
  have hflat : (joinCodes t.codes).flatMap escapeCode = t.codes.flatMap escapeCode := by
    induction t.codes with
    | nil => rfl
    | cons u us ih => rw [joinCodes_cons, flatMap_joinOnto, ih, List.flatMap_cons]
  simp only [write, joined, if_true, hflat]

end Tiered.Json.Literal
