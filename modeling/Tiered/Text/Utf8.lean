import Tiered.Text.Basic
import Tiered.Text.Hex

/-!
# Utf8 — texts as octets and back

`encode` writes the one to four octets of each character.  `decode` reads octets back and stops at
the first place that no well-formed text has: it names the octets that are wrong there and says
whether one cannot begin a character, one cannot continue it, or the input ends inside it.  An ASCII
text decodes to itself (`decode_ascii`).  A lone surrogate has no octets; `Gap.first?` finds the
first in a text.
-/

namespace Tiered.Text.Utf8

/-- An octet string. -/
abbrev Octets := List UInt8

/-- Why octets at some place are no character. -/
inductive Reason where
  | badStart
  | badContinuation
  | truncated
  deriving DecidableEq, Repr

/-- The octets at fault: where they begin, how many they are, the first of them, and why. -/
structure Fault where
  position : Nat
  width : Nat
  first : UInt8
  reason : Reason
  deriving DecidableEq, Repr

/-- The words for a reason. -/
def Reason.text : Reason → String
  | .badStart => "invalid start byte"
  | .badContinuation => "invalid continuation byte"
  | .truncated => "unexpected end of data"

/-- The message of a fault: one octet is shown, several are given by their positions. -/
def Fault.message (f : Fault) : String :=
  if f.width = 1 then
    "'utf-8' codec can't decode byte 0x" ++ String.ofList (Hex.digits 2 f.first.toNat) ++
      " in position " ++ toString f.position ++ ": " ++ f.reason.text
  else
    "'utf-8' codec can't decode bytes in position " ++ toString f.position ++ "-" ++
      toString (f.position + f.width - 1) ++ ": " ++ f.reason.text

/-- The octets of one character. -/
def encodeChar (c : Char) : Octets :=
  let n := c.toNat
  if n < 0x80 then [UInt8.ofNat n]
  else if n < 0x800 then [UInt8.ofNat (0xC0 + n / 64), UInt8.ofNat (0x80 + n % 64)]
  else if n < 0x10000 then
    [UInt8.ofNat (0xE0 + n / 4096), UInt8.ofNat (0x80 + n / 64 % 64), UInt8.ofNat (0x80 + n % 64)]
  else
    [UInt8.ofNat (0xF0 + n / 262144), UInt8.ofNat (0x80 + n / 4096 % 64),
      UInt8.ofNat (0x80 + n / 64 % 64), UInt8.ofNat (0x80 + n % 64)]

/-- The octets of a text. -/
def encode (cs : List Char) : Octets := cs.flatMap encodeChar

/-- The octets that may continue a character. -/
def isTail (b : UInt8) : Bool := 0x80 ≤ b && b < 0xC0

/-- The octets that may stand second in a character of three octets that begins with `a`: after
`E0` the short forms are left out, after `ED` the surrogates. -/
def isSecondOfThree (a b : UInt8) : Bool :=
  isTail b && !(a == 0xE0 && b < 0xA0) && !(a == 0xED && 0xA0 ≤ b)

/-- The octets that may stand second in a character of four octets that begins with `a`: after
`F0` the short forms are left out, after `F4` what lies above U+10FFFF. -/
def isSecondOfFour (a b : UInt8) : Bool :=
  isTail b && !(a == 0xF0 && b < 0x90) && !(a == 0xF4 && 0x90 ≤ b)

/-- The low six bits of a continuing octet. -/
def low (b : UInt8) : Nat := b.toNat - 0x80

/-- Reads octets from the given position on. -/
def decodeFrom (position : Nat) : Octets → Except Fault (List Char)
  | [] => .ok []
  | a :: rest =>
    let fault (width : Nat) (reason : Reason) : Except Fault (List Char) :=
      .error ⟨position, width, a, reason⟩
    if a < 0x80 then (decodeFrom (position + 1) rest).map (Char.ofNat a.toNat :: ·)
    else if a < 0xC2 then fault 1 .badStart
    else if a < 0xE0 then
      match rest with
      | [] => fault 1 .truncated
      | b :: rest =>
        if !isTail b then fault 1 .badContinuation
        else (decodeFrom (position + 2) rest).map
          (Char.ofNat ((a.toNat - 0xC0) * 64 + low b) :: ·)
    else if a < 0xF0 then
      match rest with
      | [] => fault 1 .truncated
      | [b] => if !isSecondOfThree a b then fault 1 .badContinuation else fault 2 .truncated
      | b :: c :: rest =>
        if !isSecondOfThree a b then fault 1 .badContinuation
        else if !isTail c then fault 2 .badContinuation
        else (decodeFrom (position + 3) rest).map
          (Char.ofNat ((a.toNat - 0xE0) * 4096 + low b * 64 + low c) :: ·)
    else if a < 0xF5 then
      match rest with
      | [] => fault 1 .truncated
      | [b] => if !isSecondOfFour a b then fault 1 .badContinuation else fault 2 .truncated
      | [b, c] =>
        if !isSecondOfFour a b then fault 1 .badContinuation
        else if !isTail c then fault 2 .badContinuation
        else fault 3 .truncated
      | b :: c :: d :: rest =>
        if !isSecondOfFour a b then fault 1 .badContinuation
        else if !isTail c then fault 2 .badContinuation
        else if !isTail d then fault 3 .badContinuation
        else (decodeFrom (position + 4) rest).map
          (Char.ofNat ((a.toNat - 0xF0) * 262144 + low b * 4096 + low c * 64 + low d) :: ·)
    else fault 1 .badStart

/-- Reads a whole octet string. -/
def decode (octets : Octets) : Except Fault (List Char) := decodeFrom 0 octets

/-- A row of surrogates in a text: where it begins, how many there are, and the first of them. -/
structure Gap where
  position : Nat
  width : Nat
  first : Nat
  deriving DecidableEq, Repr

/-- The surrogates that stand for an octet of their own in the name of a file. -/
def isOctetMark (code : Nat) : Bool := 0xDC80 ≤ code && code ≤ 0xDCFF

/-- The first row of surrogates that keeps code points from being the name of a file; the code
points begin at a position. -/
def Gap.firstFrom? (position : Nat) : List Nat → Option Gap
  | [] => none
  | code :: rest =>
    if isSurrogate code && !isOctetMark code then
      some ⟨position, (rest.takeWhile isSurrogate).length + 1, code⟩
    else Gap.firstFrom? (position + 1) rest

/-- The first row of surrogates that keeps a text from being the name of a file. -/
def Gap.first? (t : Text) : Option Gap := Gap.firstFrom? 0 t.numbers

/-- The message of a gap: one surrogate is shown, several are given by their positions. -/
def Gap.message (g : Gap) : String :=
  if g.width = 1 then
    "'utf-8' codec can't encode character '\\u" ++ String.ofList (Hex.digits 4 g.first) ++
      "' in position " ++ toString g.position ++ ": surrogates not allowed"
  else
    "'utf-8' codec can't encode characters in position " ++ toString g.position ++ "-" ++
      toString (g.position + g.width - 1) ++ ": surrogates not allowed"

/-- How many octets a text takes. -/
def size (cs : List Char) : Nat := (encode cs).length

/-- An ASCII text is encoded octet by character. -/
theorem decodeFrom_ascii (p : Nat) {cs : List Char} (h : ∀ c ∈ cs, c.toNat < 0x80) :
    decodeFrom p (encode cs) = .ok cs := by
  induction cs generalizing p with
  | nil => rfl
  | cons c cs ih =>
    have hc : c.toNat < 0x80 := h c (by simp)
    have hn : (UInt8.ofNat c.toNat).toNat = c.toNat := by
      rw [UInt8.toNat_ofNat']
      omega
    have hb : UInt8.ofNat c.toNat < 0x80 := by
      rw [UInt8.lt_iff_toNat_lt, hn]
      exact hc
    have hrest : decodeFrom (p + 1) (cs.flatMap encodeChar) = .ok cs :=
      ih (p + 1) fun d hd => h d (by simp [hd])
    have he : encode (c :: cs) = UInt8.ofNat c.toNat :: cs.flatMap encodeChar := by
      simp [encode, encodeChar, hc]
    rw [he, decodeFrom.eq_def]
    simp [hb, hrest, hn, Except.map]

theorem decode_ascii {cs : List Char} (h : ∀ c ∈ cs, c.toNat < 0x80) :
    decode (encode cs) = .ok cs :=
  decodeFrom_ascii 0 h

theorem firstFrom?_map (position : Nat) (cs : List Char) :
    Gap.firstFrom? position (cs.map Char.toNat) = none := by
  induction cs generalizing position with
  | nil => rfl
  | cons c cs ih => simp [Gap.firstFrom?, isSurrogate_char, ih]

/-- What characters make has no gap. -/
theorem first?_ofChars (cs : List Char) : Gap.first? (ofChars cs) = none := by
  rw [Gap.first?, numbers_ofChars, firstFrom?_map]

example : decode [0xE2, 0x82] = .error ⟨0, 2, 0xE2, .truncated⟩ := by rfl

example : decode [0x20, 0xE9, 0x22] = .error ⟨1, 1, 0xE9, .badContinuation⟩ := by rfl

end Tiered.Text.Utf8
