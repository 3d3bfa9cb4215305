/-
SemverRange/Version/Precedence.lean

Precedence of versions.  The three numbers decide first; a release comes above
all pre-releases of the same numbers, and two pre-releases are ordered by their
identifiers.  Build metadata has no say, so different versions can have the
same place in the order: they are equivalent.
-/
import SemverRange.Version.Basic

namespace SemverRange

/-- Precedence of two pre-releases; the empty one belongs to a release. -/
def preReleasePrecedence : List Identifier → List Identifier → Ordering
  | [], [] => .eq
  | [], _ :: _ => .gt
  | _ :: _, [] => .lt
  | a :: as, b :: bs => List.compareLex Identifier.precedence (a :: as) (b :: bs)

namespace Version

/-- Precedence of two versions. -/
def precedence (v w : Version) : Ordering :=
  (compare v.major w.major).then <|
    (compare v.minor w.minor).then <|
      (compare v.patch w.patch).then (preReleasePrecedence v.preRelease w.preRelease)

/-- Whether `v` comes before `w`. -/
def isOlderThan (v w : Version) : Bool :=
  (v.precedence w).isLT

/-- Whether `v` comes after `w`. -/
def isNewerThan (v w : Version) : Bool :=
  w.isOlderThan v

/-- Whether two versions have the same numbers. -/
def hasSameBase (v w : Version) : Bool :=
  v.triple = w.triple

/-- Whether two versions differ in nothing but build metadata. -/
def isEquivalentTo (v w : Version) : Bool :=
  v.hasSameBase w && v.preRelease = w.preRelease

end Version

end SemverRange
