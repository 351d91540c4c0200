import Tiered.Text.Basic

/-!
# Blank — the characters that count as white space

White space is the Unicode property together with the four separators U+001C to U+001F: the class
that trims a text, that says when a text is blank, and that may stand around a placeholder's name.
The zero-width space and the byte order mark are outside it, and so is every surrogate.
-/

namespace Tiered.Text

/-- White space: the Unicode property and the information separators U+001C to U+001F. -/
def isBlankNumber (n : Nat) : Bool :=
  (9 ≤ n && n ≤ 13) || (28 ≤ n && n ≤ 32) || n == 0x85 || n == 0xA0 || n == 0x1680 ||
    (0x2000 ≤ n && n ≤ 0x200A) || n == 0x2028 || n == 0x2029 || n == 0x202F || n == 0x205F ||
    n == 0x3000

/-- A character that is white space. -/
def isBlank (c : Char) : Bool := isBlankNumber c.toNat

/-- A code point that is white space; a surrogate never is. -/
def isBlankCode (u : Code) : Bool := isBlankNumber u.val

/-- A text is blank when it holds nothing but white space; the empty text is blank. -/
def allBlank (cs : List Char) : Bool := cs.all isBlank

/-- Every code point of the text is white space. -/
def onlyBlank (t : Text) : Bool := t.codes.all isBlankCode

/-- The text without the white space at its two ends. -/
def trim (cs : List Char) : List Char :=
  ((cs.dropWhile isBlank).reverse.dropWhile isBlank).reverse

theorem allBlank_nil : allBlank [] = true := rfl

theorem allBlank_append (a b : List Char) : allBlank (a ++ b) = (allBlank a && allBlank b) := by
  simp [allBlank]

example : isBlank '\u200b' = false ∧ isBlank '\u3000' = true ∧ isBlank '\x1c' = true := by decide

end Tiered.Text
