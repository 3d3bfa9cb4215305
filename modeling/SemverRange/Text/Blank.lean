/-
SemverRange/Text/Blank.lean

Blank characters: the white space of Unicode together with the four ASCII
separators U+001C to U+001F.  Zero-width characters (U+200B, U+2060, U+FEFF)
are not blank.
-/
import SemverRange.Text.Basic

namespace SemverRange.Text

/-- The blank characters, as closed ranges of code points in ascending order. -/
def blankRanges : List (Nat × Nat) :=
  [(0x09, 0x0D), (0x1C, 0x20), (0x85, 0x85), (0xA0, 0xA0), (0x1680, 0x1680), (0x2000, 0x200A),
   (0x2028, 0x2029), (0x202F, 0x202F), (0x205F, 0x205F), (0x3000, 0x3000)]

/-- Whether a character is blank. -/
def isBlank (c : Char) : Bool :=
  inRanges blankRanges c

/-- Drops the blank characters at the front of a text. -/
def skipBlanks (s : Text) : Text :=
  s.dropWhile isBlank

/-- Removes the blank characters at both ends of a text. -/
def strip (s : Text) : Text :=
  trim isBlank s

theorem length_skipBlanks_le (s : Text) : (skipBlanks s).length ≤ s.length :=
  (List.dropWhile_sublist isBlank).length_le

end SemverRange.Text
