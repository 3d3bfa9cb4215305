/-
SemverRange/Literal/Bounds.lean

The versions that a literal stands for, as a lower and an upper bound.

A literal may leave fields open from the right only, and carries a pre-release
or build metadata only if no field is open.  `Literal.fault?` finds breaches
of this and blames a fragment of the requirement.  For a literal that was never
text the fragment can be empty; an empty fragment blames nothing, and
`Literal.check` lets such a literal pass.
-/
import SemverRange.Literal.Basic
import SemverRange.Text.Numeral
import SemverRange.Version.Basic

namespace SemverRange

/-- Why a literal or a clause has no meaning. -/
inductive MeaningError where
  /-- The fragment combines fields in a way that is not allowed. -/
  | rejected (fragment : Text)
  /-- A field is no number. -/
  | notANumber (field : Text)
  deriving DecidableEq, Repr

/-- The version with the given parts; if its identifiers are unsound, the
fragment is to blame, or the three numbers if the fragment is empty. -/
def versionOrBlame (major minor patch : Int) (preRelease build : List Identifier)
    (fragment : Text) : Except MeaningError Version :=
  match Version.ofParts? major minor patch preRelease build with
  | some v => .ok v
  | none =>
    .error <| .rejected <|
      if fragment.isEmpty then Version.tripleText major minor patch else fragment

/-- The number in a field, an open field counting as zero. -/
def fieldNumber (field : Option Text) : Except MeaningError Int :=
  match field with
  | none => .ok 0
  | some s =>
    if isWildcard field then .ok 0
    else
      match Text.Numeral.read? s with
      | some n => .ok n
      | none => .error (.notANumber s)

namespace Literal

/-- The fragment to blame if a literal combines its fields in a way that is not
allowed.  A field that is missing shows as `None`. -/
def fault? (l : Literal) : Option Text :=
  let openMinor := isWildcard l.minor
  let openPatch := isWildcard l.patch
  let shown (field : Option Text) : Text := field.getD ['N', 'o', 'n', 'e']
  if l.isAny then
    if !(openMinor && openPatch) || l.isTagged then some l.toText else none
  else if !(Text.strip (l.major.getD [])).all Text.isDigitLike then some l.toText
  else if openMinor && !openPatch then
    some (Text.dotted [shown l.major, shown l.minor, shown l.patch])
  else if (openMinor || openPatch) && l.isTagged then some l.toText
  else none

/-- Rejects a literal if there is a fragment to blame. -/
def check (l : Literal) : Except MeaningError Unit :=
  match l.fault? with
  | some (c :: s) => .error (.rejected (c :: s))
  | _ => .ok ()

/-- The numbers of a literal, open fields counting as zero. -/
def numbers (l : Literal) : Except MeaningError (Int × Int × Int) := do
  let major ← fieldNumber l.major
  let minor ← fieldNumber l.minor
  let patch ← fieldNumber l.patch
  return (major, minor, patch)

/-- The release with the given numbers, blaming the literal. -/
def release (l : Literal) (major minor patch : Int) : Except MeaningError Version :=
  versionOrBlame major minor patch [] [] l.toText

/-- The lowest version that a literal stands for.  The tags survive only if no
field is open. -/
def lowest (l : Literal) : Except MeaningError Version := do
  l.check
  if l.isAny then return Version.least
  let (major, minor, patch) ← l.numbers
  if isWildcard l.minor || isWildcard l.patch then l.release major minor patch
  else versionOrBlame major minor patch l.preRelease l.build l.toText

/-- The upper bound of the versions that a literal stands for: the literal
itself if no field is open, and otherwise the release that follows them all. -/
def highest (l : Literal) : Except MeaningError Version := do
  l.check
  if l.isAny then return Version.greatest
  let (major, minor, patch) ← l.numbers
  if isWildcard l.minor then l.release (major + 1) 0 0
  else if isWildcard l.patch then l.release major (minor + 1) 0
  else versionOrBlame major minor patch l.preRelease l.build l.toText

/-- The upper bound of a tilde range: the next minor version, or the next major
version if the minor number is open. -/
def tildeBound (l : Literal) : Except MeaningError Version := do
  let (major, minor, _) ← l.numbers
  if isWildcard l.minor then l.release (major + 1) 0 0
  else l.release major (minor + 1) 0

/-- The upper bound of a caret range: the leftmost number that is not zero goes
up by one.  If all numbers given are zero, the last one given goes up. -/
def caretBound (l : Literal) : Except MeaningError Version := do
  let (major, minor, patch) ← l.numbers
  if 0 < major then l.release (major + 1) 0 0
  else if isWildcard l.minor then l.release 1 0 0
  else if 0 < minor then l.release 0 (minor + 1) 0
  else if isWildcard l.patch then l.release 0 1 0
  else l.release 0 0 (patch + 1)

end Literal

end SemverRange
