/-!
# Lines — line ends and places in a text

`unify` turns the line ends CR LF and CR into LF, and `split` cuts a text at every line end that
Unicode knows.  A place is an offset in characters; `Place.at`
counts its line and its column, both from one.
-/

namespace Tiered.Text.Lines

/-- Every carriage return, alone or before a line feed, becomes one line feed. -/
def unify : List Char → List Char
  | [] => []
  | '\r' :: '\n' :: rest => '\n' :: unify rest
  | c :: rest => (if c = '\r' then '\n' else c) :: unify rest

/-- Only CR LF becomes a line feed; a lone carriage return stays. -/
def joinPairs : List Char → List Char
  | [] => []
  | '\r' :: '\n' :: rest => '\n' :: joinPairs rest
  | c :: rest => c :: joinPairs rest

/-- The characters that end a line: line feed, carriage return, vertical tab, form feed, the three
separators U+001C to U+001E, next line, and the line and paragraph separators. -/
def isEnd (c : Char) : Bool :=
  let n := c.toNat
  (10 ≤ n && n ≤ 13) || (28 ≤ n && n ≤ 30) || n == 0x85 || n == 0x2028 || n == 0x2029

/-- The lines of a text without their ends, behind the characters of a line that has begun; CR LF is
one end, and nothing follows an end at the very end. -/
def splitFrom (begun : List Char) : List Char → List (List Char)
  | [] => if begun.isEmpty then [] else [begun.reverse]
  | '\r' :: '\n' :: rest => begun.reverse :: splitFrom [] rest
  | c :: rest => if isEnd c then begun.reverse :: splitFrom [] rest else splitFrom (c :: begun) rest

/-- The lines of a text without their ends. -/
def split (cs : List Char) : List (List Char) := splitFrom [] cs

/-- A place in a text: the characters before it, its line and its column. -/
structure Place where
  offset : Nat
  line : Nat
  column : Nat
  deriving DecidableEq, Repr

/-- The place that lies behind the given characters. -/
def Place.after (before : List Char) : Place where
  offset := before.length
  line := before.count '\n' + 1
  column := (before.reverse.takeWhile (· ≠ '\n')).length + 1

/-- The place in `doc` from which `rest` is left. -/
def Place.at (doc rest : List Char) : Place :=
  Place.after (doc.take (doc.length - rest.length))

theorem unify_of_no_return {cs : List Char} (h : '\r' ∉ cs) : unify cs = cs := by
  fun_induction unify cs with
  | case1 => rfl
  | case2 => simp at h
  | case3 c rest _ ih =>
    simp only [List.mem_cons, not_or] at h
    simp [ih h.2, Ne.symm h.1]

example : split "a\r\nb\u2028".toList = ["a".toList, "b".toList] := by decide

example : Place.at "a\nbc".toList "c".toList = ⟨3, 2, 2⟩ := by decide

end Tiered.Text.Lines
