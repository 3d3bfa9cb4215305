/-
SemverRange/Condition/SpacedDash.lean

Telling a pre-release from a dash range.

`1.1.1-2.2.2` is a version whose pre-release is `2.2.2`, while `1.1.1 - 2.2.2`
is a range.  Both read as the same literal (`SemverRange.Literal.Reader`), so
the whole text of the requirement is searched for a place where the three
fields, a hyphen with blanks on at least one side, and the pre-release follow
one another.  The search knows nothing of conditions: any place in the text
will do.
-/
import SemverRange.Condition.Basic
import SemverRange.Literal.Reader

namespace SemverRange

/-- Whether a text begins with some blanks, possibly none, and then `piece`. -/
def beginsAfterBlanks (piece : Text) : Text → Bool
  | [] => piece.isEmpty
  | c :: s => piece.isPrefixOf (c :: s) || Text.isBlank c && beginsAfterBlanks piece s

/-- Whether a text begins with a hyphen that has blanks on at least one side,
and then `piece`. -/
def beginsAfterSpacedDash (piece s : Text) : Bool :=
  match s with
  | '-' :: t => t.head?.any Text.isBlank && beginsAfterBlanks piece (t.drop 1)
  | _ =>
    match Text.skipBlanks s with
    | '-' :: t => beginsAfterBlanks piece t
    | _ => false

namespace Literal

/-- The three fields with dots between them, a missing field as empty text. -/
def tripleText (l : Literal) : Text :=
  Text.dotted [l.major.getD [], l.minor.getD [], l.patch.getD []]

/-- Whether a text begins with the literal, written with a spaced dash. -/
def beginsSpaced (l : Literal) (s : Text) : Bool :=
  (l.tripleText.isPrefixOf? s).any (beginsAfterSpacedDash (Text.dotted l.preRelease))

/-- Whether a text holds the literal anywhere, written with a spaced dash. -/
def hasSpacedDash (l : Literal) : Text → Bool
  | [] => false
  | c :: s => l.beginsSpaced (c :: s) || l.hasSpacedDash s

end Literal

/-- The dash range that a comparison really is, if it is one: its literal has no
build metadata, its pre-release is a literal itself, and `requirement` writes
the two with a spaced dash.  The sign of such a comparison is of no
consequence. -/
def Comparison.dashRange? (c : Comparison) (requirement : Text) : Option DashRange :=
  if c.version.build.isEmpty then
    match c.version.preReleaseText?.bind Literal.ofText? with
    | none => none
    | some upper =>
      if c.version.hasSpacedDash requirement then
        some { lower := c.version.withoutPreRelease, upper }
      else none
  else none

end SemverRange
