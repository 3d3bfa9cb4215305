/-
SemverRange/Text/Basic.lean

Texts, and the few operations on them that every other module needs.

A text is the list of its characters, so that positions count code points,
readers recurse on the data, and a rest of a text is again a text.  A set of
characters that has to follow a table is given by closed ranges of code
points (`inRanges`).
-/

namespace SemverRange

/-- A text, as the list of its characters. -/
abbrev Text := List Char

namespace Text

/-- Whether the code point of a character lies in one of the closed ranges. -/
def inRanges (ranges : List (Nat × Nat)) (c : Char) : Bool :=
  ranges.any fun r => r.1 ≤ c.toNat && c.toNat ≤ r.2

/-- Removes from both ends of a text the characters that satisfy `p`. -/
def trim (p : Char → Bool) (s : Text) : Text :=
  ((s.dropWhile p).reverse.dropWhile p).reverse

/-- Joins pieces with a dot between neighbours. -/
def dotted (pieces : List Text) : Text :=
  ['.'].intercalate pieces

/-- Drops one letter `v`, of either case, from the front of a text. -/
def dropLetter : Text → Text
  | 'v' :: s => s
  | 'V' :: s => s
  | s => s

/-- The part of a text from position `i` on.  A negative position counts back
from the end, and one that is out of range means the nearer end. -/
def fromPosition (s : Text) (i : Int) : Text :=
  if 0 ≤ i then s.drop i.toNat else s.drop (s.length - i.natAbs)

/-- What stands in `s` before its end part `rest`. -/
def before (s rest : Text) : Text :=
  s.take (s.length - rest.length)

theorem before_append (s rest : Text) : before (s ++ rest) rest = s := by
  simp [before]

end Text

end SemverRange
