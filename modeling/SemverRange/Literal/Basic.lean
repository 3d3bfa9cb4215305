/-
SemverRange/Literal/Basic.lean

Version literals: versions as a requirement writes them, with fields left out
or replaced by a wildcard.

A literal keeps the texts of its fields and, in `text`, the whole as it was
written.  Readers only make literals whose fields follow the grammar, but a
literal can be put together from any texts, so nothing here relies on that.
-/
import SemverRange.Text.Blank
import SemverRange.Text.Digit
import SemverRange.Version.Identifier

namespace SemverRange

/-- A version as a requirement writes it. -/
structure Literal where
  major : Option Text
  minor : Option Text := none
  patch : Option Text := none
  preRelease : List Identifier := []
  build : List Identifier := []
  /-- The literal as it was written, or empty if it was not read from a text. -/
  text : Text := []
  deriving DecidableEq, Repr

/-- The characters that stand for any number. -/
def wildcardMarks : List Char := ['x', 'X', '*']

/-- Whether a field leaves its number open: it is missing or blank, or holds
nothing but a wildcard. -/
def isWildcard : Option Text → Bool
  | none => true
  | some s =>
    match Text.strip s with
    | [] => true
    | [c] => wildcardMarks.contains c
    | _ => false

namespace Literal

/-- The fields that are there, with dots between them. -/
def fieldsText (l : Literal) : Text :=
  Text.dotted ([l.major, l.minor, l.patch].filterMap id)

/-- A literal in writing. -/
def toText (l : Literal) : Text :=
  if l.text.isEmpty then l.fieldsText else l.text

/-- Whether a literal carries a pre-release or build metadata. -/
def isTagged (l : Literal) : Bool :=
  !l.preRelease.isEmpty || !l.build.isEmpty

/-- Whether a literal stands for all versions. -/
def isAny (l : Literal) : Bool :=
  isWildcard l.major

/-- The pre-release in writing, if there is one. -/
def preReleaseText? (l : Literal) : Option Text :=
  if l.preRelease.isEmpty then none else some (Text.dotted l.preRelease)

/-- The literal without its pre-release. -/
def withoutPreRelease (l : Literal) : Literal :=
  { l with preRelease := [], text := l.fieldsText }

end Literal

end SemverRange
