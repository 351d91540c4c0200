/-!
# Text — texts as rows of code points

A code point is the number of a character, or a surrogate, which is none.  A text may hold
surrogates anywhere, also a high one right before a low one: these two stay two, while a reader of
escapes takes such a pair for the one character that it stands for (`joinCodes`).  `chars?` gives
the characters of a text without surrogates: these are the texts that characters make
(`chars?_eq_some_iff`).
-/

namespace Tiered

/-- A code point. -/
abbrev Code := Fin 0x110000

-- the numerals of `Code` are read by this instance in every module, whichever others it sees
instance (priority := high) Code.instNeZero :
    @NeZero Nat (@Zero.ofOfNat0 Nat (instOfNatNat (nat_lit 0))) 0x110000 := ⟨by decide⟩

/-- A text: a row of code points. -/
structure Text where
  codes : List Code
  deriving DecidableEq, Repr, Inhabited

namespace Text

/-- The surrogates that begin a pair. -/
def isHigh (n : Nat) : Bool := 0xD800 ≤ n && n < 0xDC00

/-- The surrogates that end a pair. -/
def isLow (n : Nat) : Bool := 0xDC00 ≤ n && n < 0xE000

/-- The numbers of code points that are no characters. -/
def isSurrogate (n : Nat) : Bool := 0xD800 ≤ n && n < 0xE000

/-- The code point with a number. -/
def code (n : Nat) : Code := Fin.ofNat 0x110000 n

/-- The code points of a text as numbers. -/
def numbers (t : Text) : List Nat := t.codes.map Fin.val

/-- The text of a row of numbers. -/
def ofNumbers (ns : List Nat) : Text := ⟨ns.map code⟩

/-- The text of a row of characters. -/
def ofChars (cs : List Char) : Text := ofNumbers (cs.map Char.toNat)

/-- The text of a string. -/
def ofString (s : String) : Text := ofChars s.toList

instance : Coe String Text := ⟨ofString⟩

/-- The text has no code points. -/
def isEmpty (t : Text) : Bool := t.codes.isEmpty

/-- One text behind the other. -/
def append (a b : Text) : Text := ⟨a.codes ++ b.codes⟩

instance : Append Text := ⟨append⟩

/-- The character with a number, unless it is a surrogate. -/
def char? (n : Nat) : Option Char := if isSurrogate n then none else some (Char.ofNat n)

/-- The characters with the given numbers, unless one is a surrogate. -/
def charsOf? : List Nat → Option (List Char)
  | [] => some []
  | n :: rest => (char? n).bind fun c => (charsOf? rest).map (c :: ·)

/-- The characters of a text, unless it holds a surrogate. -/
def chars? (t : Text) : Option (List Char) := charsOf? t.numbers

/-- The characters of a text, with U+FFFD for a surrogate. -/
def chars (t : Text) : List Char := t.numbers.map fun n => (char? n).getD '\ufffd'

/-- The characters of a text as a string. -/
def string (t : Text) : String := String.ofList t.chars

/-- The one text stands before the other by their code points. -/
def before (a b : Text) : Bool := a.numbers < b.numbers

/-! ### Pairs -/

/-- The character that a pair stands for. -/
def pairCode (high low : Nat) : Code :=
  ⟨high % 1024 * 1024 + low % 1024 + 0x10000, by omega⟩

/-- The surrogate that begins the pair for a character above U+FFFF. -/
def highHalf (n : Nat) : Nat := 0xD800 + (n - 0x10000) / 1024

/-- The surrogate that ends the pair for a character above U+FFFF. -/
def lowHalf (n : Nat) : Nat := 0xDC00 + (n - 0x10000) % 1024

/-- A code point in front of others; a high surrogate and a low one right behind it become the
character that they stand for. -/
def joinOnto (c : Code) : List Code → List Code
  | [] => [c]
  | d :: rest => if isHigh c && isLow d then pairCode c d :: rest else c :: d :: rest

/-- The code points with pairs joined. -/
def joinCodes (cs : List Code) : List Code := cs.foldr joinOnto []

/-! ### Numbers and characters -/

theorem val_code {n : Nat} (h : n < 0x110000) : (code n).val = n := Nat.mod_eq_of_lt h

theorem code_val (c : Code) : code c.val = c := Fin.ext (Nat.mod_eq_of_lt c.isLt)

theorem ofNumbers_numbers (t : Text) : ofNumbers t.numbers = t := by
  obtain ⟨cs⟩ := t
  simp only [ofNumbers, numbers, List.map_map, mk.injEq]
  exact (List.map_congr_left fun c _ => code_val c).trans (List.map_id cs)

theorem toNat_lt (c : Char) : c.toNat < 0x110000 := by
  have hv : c.toNat < 0xD800 ∨ 0xDFFF < c.toNat ∧ c.toNat < 0x110000 := c.valid
  omega

theorem isSurrogate_char (c : Char) : isSurrogate c.toNat = false := by
  have hv : c.toNat < 0xD800 ∨ 0xDFFF < c.toNat ∧ c.toNat < 0x110000 := c.valid
  simp only [isSurrogate, Bool.and_eq_false_iff, decide_eq_false_iff_not]
  omega

theorem char?_toNat (c : Char) : char? c.toNat = some c := by
  simp [char?, isSurrogate_char, Char.ofNat_toNat]

theorem toNat_of_char? {n : Nat} {c : Char} (hn : n < 0x110000) (h : char? n = some c) :
    c.toNat = n := by
  rw [char?] at h
  split at h
  · simp at h
  · next hs =>
    simp only [isSurrogate, Bool.and_eq_true, decide_eq_true_eq] at hs
    have hv : n.isValidChar := by
      simp only [Nat.isValidChar]
      omega
    simp only [Option.some.injEq] at h
    subst h
    rw [Char.ofNat, dif_pos hv]
    rfl

theorem numbers_ofChars (cs : List Char) : (ofChars cs).numbers = cs.map Char.toNat := by
  simp only [numbers, ofChars, ofNumbers, List.map_map]
  exact List.map_congr_left fun c _ => val_code (toNat_lt c)

theorem charsOf?_map (cs : List Char) : charsOf? (cs.map Char.toNat) = some cs := by
  induction cs with
  | nil => rfl
  | cons c cs ih => simp [charsOf?, char?_toNat, ih]

theorem chars?_ofChars (cs : List Char) : (ofChars cs).chars? = some cs := by
  rw [chars?, numbers_ofChars, charsOf?_map]

/-- The characters of what characters make are these characters. -/
theorem chars_ofChars (cs : List Char) : (ofChars cs).chars = cs := by
  rw [chars, numbers_ofChars, List.map_map]
  simp [Function.comp_def, char?_toNat]

theorem string_ofString (s : String) : (ofString s).string = s := by
  simp [string, ofString, chars_ofChars]

theorem ofString_inj {s t : String} : ofString s = ofString t ↔ s = t := by
  constructor
  · intro h
    rw [← string_ofString s, h, string_ofString]
  · exact fun h => h ▸ rfl

theorem lt_of_mem_numbers {t : Text} {n : Nat} (h : n ∈ t.numbers) : n < 0x110000 := by
  obtain ⟨c, -, rfl⟩ := List.mem_map.1 h
  exact c.isLt

theorem map_toNat_of_charsOf? {ns : List Nat} (hn : ∀ n ∈ ns, n < 0x110000)
    {cs : List Char} (h : charsOf? ns = some cs) : cs.map Char.toNat = ns := by
  induction ns generalizing cs with
  | nil =>
    simp only [charsOf?, Option.some.injEq] at h
    subst h
    rfl
  | cons n rest ih =>
    simp only [charsOf?, Option.bind_eq_some_iff, Option.map_eq_some_iff] at h
    obtain ⟨c, hc, cs', hrest, rfl⟩ := h
    rw [List.map_cons, toNat_of_char? (hn n (by simp)) hc,
      ih (fun m hm => hn m (by simp [hm])) hrest]

/-- A text has characters exactly when characters make it. -/
theorem chars?_eq_some_iff {t : Text} {cs : List Char} : t.chars? = some cs ↔ t = ofChars cs := by
  constructor
  · intro h
    rw [← ofNumbers_numbers t, ofChars, map_toNat_of_charsOf? (fun n hn => lt_of_mem_numbers hn) h]
  · rintro rfl
    exact chars?_ofChars cs

end Text

end Tiered
