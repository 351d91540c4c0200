import Mathlib
import Tiered.Text.Basic

/-!
# Joined — texts without pairs

A text is unsplit when no high surrogate stands right before a low one in it.  Joining a text makes
it unsplit (`unsplit_joined`) and changes no text that is unsplit already (`joined_eq_self_iff`).
The characters above U+FFFF are those that pairs stand for (`pairCode_halves`).
-/

namespace Tiered.Text

variable {n : Nat} {c : Code}

/-! ### Halves -/

theorem isHigh_iff : isHigh n = true ↔ 0xD800 ≤ n ∧ n < 0xDC00 := by simp [isHigh]

theorem isLow_iff : isLow n = true ↔ 0xDC00 ≤ n ∧ n < 0xE000 := by simp [isLow]

theorem isSurrogate_iff : isSurrogate n = true ↔ 0xD800 ≤ n ∧ n < 0xE000 := by simp [isSurrogate]

theorem isHigh_of_not_surrogate (h : isSurrogate n = false) : isHigh n = false := by
  rw [← Bool.not_eq_true, isSurrogate_iff] at h
  rw [← Bool.not_eq_true, isHigh_iff]
  omega

theorem not_surrogate_of_le (h : 0x10000 ≤ n) : isSurrogate n = false := by
  rw [← Bool.not_eq_true, isSurrogate_iff]
  omega

theorem isSurrogate_of_lt (h : n < 0xD800) : isSurrogate n = false := by
  rw [← Bool.not_eq_true, isSurrogate_iff]
  omega

theorem not_surrogate_pairCode (high low : Nat) : isSurrogate (pairCode high low) = false :=
  not_surrogate_of_le (Nat.le_add_left _ _)

theorem isHigh_highHalf (hn : n < 0x110000) : isHigh (highHalf n) = true := by
  rw [isHigh_iff, highHalf]
  omega

theorem isLow_lowHalf (n : Nat) : isLow (lowHalf n) = true := by
  rw [isLow_iff, lowHalf]
  omega

theorem halves_lt (hn : n < 0x110000) : highHalf n < 0x10000 ∧ lowHalf n < 0x10000 := by
  rw [highHalf, lowHalf]
  omega

/-- The pair of halves stands for the character. -/
theorem pairCode_halves (h : 0x10000 ≤ c.val) : pairCode (highHalf c) (lowHalf c) = c := by
  have hc := c.isLt
  refine Fin.ext ?_
  rw [pairCode, highHalf, lowHalf]
  dsimp only
  omega

/-! ### Texts without pairs -/

/-- The first code point does not begin a pair with the second. -/
def Apart (c d : Code) : Prop := (isHigh c && isLow d) = false

instance (c d : Code) : Decidable (Apart c d) := inferInstanceAs (Decidable (_ = _))

/-- No high surrogate stands right before a low one. -/
def Unsplit (t : Text) : Prop := t.codes.IsChain Apart

instance (t : Text) : Decidable t.Unsplit := inferInstanceAs (Decidable (List.IsChain _ _))

theorem apart_of_not_surrogate (h : isSurrogate c = false) (d : Code) : Apart c d := by
  rw [Apart, isHigh_of_not_surrogate h, Bool.false_and]

theorem joinOnto_of_not_high (h : isHigh c = false) (cs : List Code) :
    joinOnto c cs = c :: cs := by
  cases cs <;> simp [joinOnto, h]

theorem joinOnto_of_not_surrogate (h : isSurrogate c = false) (cs : List Code) :
    joinOnto c cs = c :: cs := joinOnto_of_not_high (isHigh_of_not_surrogate h) cs

/-- Two halves in front of others are joined to their character. -/
theorem joinOnto_halves (h : 0x10000 ≤ c.val) (cs : List Code) :
    joinOnto (code (highHalf c)) (joinOnto (code (lowHalf c)) cs) = joinOnto c cs := by
  obtain ⟨hhigh, hlow⟩ := halves_lt c.isLt
  have hlowval : (code (lowHalf c)).val = lowHalf c := val_code (by omega)
  have hhighval : (code (highHalf c)).val = highHalf c := val_code (by omega)
  have hnothigh : isHigh (code (lowHalf c)).val = false := by
    have hbounds := isLow_iff.1 (isLow_lowHalf c)
    rw [hlowval, ← Bool.not_eq_true, isHigh_iff]
    omega
  have hpair : (isHigh (code (highHalf c)) && isLow (code (lowHalf c))) = true := by
    rw [hlowval, hhighval, isHigh_highHalf c.isLt, isLow_lowHalf]
    rfl
  rw [joinOnto_of_not_high hnothigh cs, joinOnto_of_not_surrogate (not_surrogate_of_le h) cs,
    joinOnto, if_pos hpair, hlowval, hhighval, pairCode_halves h]

theorem joinCodes_cons (c : Code) (cs : List Code) :
    joinCodes (c :: cs) = joinOnto c (joinCodes cs) := rfl

/-- One more code point makes no pair where there was none. -/
theorem isChain_joinOnto {cs : List Code} (h : cs.IsChain Apart) (c : Code) :
    (joinOnto c cs).IsChain Apart := by
  cases h with
  | nil => exact .singleton c
  | singleton d =>
      rw [joinOnto]
      split
      · exact .singleton _
      · next hp => exact .cons_cons (Bool.eq_false_of_not_eq_true hp) (.singleton d)
  | @cons_cons d e rest hde hrest =>
      rw [joinOnto]
      split
      · -- what a pair stands for begins no other pair
        exact hrest.cons_cons (apart_of_not_surrogate (not_surrogate_pairCode c d) e)
      · next hp => exact .cons_cons (Bool.eq_false_of_not_eq_true hp) (.cons_cons hde hrest)

theorem isChain_joinCodes (cs : List Code) : (joinCodes cs).IsChain Apart := by
  induction cs with
  | nil => exact .nil
  | cons c cs ih => exact isChain_joinOnto ih c

theorem joinCodes_of_isChain {cs : List Code} (h : cs.IsChain Apart) : joinCodes cs = cs := by
  induction h with
  | nil => rfl
  | singleton c => rfl
  | @cons_cons c d rest hcd _ ih =>
      rw [joinCodes_cons, ih, joinOnto, if_neg (ne_true_of_eq_false hcd)]

/-- The text with its pairs joined. -/
def joined (t : Text) : Text := ⟨joinCodes t.codes⟩

/-- No pair is left. -/
theorem unsplit_joined (t : Text) : t.joined.Unsplit := isChain_joinCodes t.codes

theorem joined_of_unsplit {t : Text} (h : t.Unsplit) : t.joined = t :=
  congrArg Text.mk (joinCodes_of_isChain h)

/-- **Joining changes a text exactly when it holds a pair.** -/
theorem joined_eq_self_iff {t : Text} : t.joined = t ↔ t.Unsplit :=
  ⟨fun h => h ▸ unsplit_joined t, joined_of_unsplit⟩

theorem joined_joined (t : Text) : t.joined.joined = t.joined :=
  joined_of_unsplit (unsplit_joined t)

theorem unsplit_of_forall {t : Text} (h : ∀ c ∈ t.codes, isSurrogate c = false) : t.Unsplit :=
  (List.pairwise_of_forall_mem_list fun c hc d _ => apart_of_not_surrogate (h c hc) d).isChain

/-- What characters make holds no surrogate, so no pair. -/
theorem unsplit_ofChars (cs : List Char) : (ofChars cs).Unsplit := by
  refine unsplit_of_forall fun c hc => ?_
  have hmem : c.val ∈ (ofChars cs).numbers := List.mem_map_of_mem hc
  rw [numbers_ofChars] at hmem
  obtain ⟨d, -, hd⟩ := List.mem_map.1 hmem
  rw [← hd, isSurrogate_char]

theorem unsplit_ofString (s : String) : (ofString s).Unsplit := unsplit_ofChars s.toList

theorem joined_ofString (s : String) : (ofString s).joined = ofString s :=
  joined_of_unsplit (unsplit_ofString s)

/-- A pair becomes a character, and a surrogate alone stays. -/
example : joined ⟨[0xD83D, 0xDE00, 0xD83D]⟩ = ⟨[0x1F600, 0xD83D]⟩ := by decide

end Tiered.Text
