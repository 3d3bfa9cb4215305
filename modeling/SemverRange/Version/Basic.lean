/-
SemverRange/Version/Basic.lean

Semantic versions: three numbers, a pre-release and build metadata.

Numbers are integers without a bound.  Texts only ever write natural numbers,
but a version can also be put together from its parts (`Version.ofParts?`),
and there nothing forbids a negative number.
-/
import SemverRange.Version.Identifier

namespace SemverRange

/-- A semantic version. -/
structure Version where
  major : Int
  minor : Int
  patch : Int
  /-- The identifiers of the pre-release; none for a release. -/
  preRelease : List Identifier := []
  /-- The identifiers of the build metadata. -/
  build : List Identifier := []
  deriving DecidableEq, Repr

namespace Version

/-- The three numbers. -/
def triple (v : Version) : Int × Int × Int :=
  (v.major, v.minor, v.patch)

/-- Whether a version is a pre-release. -/
def isPreRelease (v : Version) : Bool :=
  !v.preRelease.isEmpty

/-- Whether a version carries a pre-release or build metadata. -/
def isTagged (v : Version) : Bool :=
  !v.preRelease.isEmpty || !v.build.isEmpty

/-- The largest number that the greatest version carries. -/
def greatestNumber : Int := 9223372036854775807

/-- The version that stands for no lower bound. -/
def least : Version := { major := 0, minor := 0, patch := 0 }

/-- The version that stands for no upper bound.  There are versions beyond it. -/
def greatest : Version :=
  { major := greatestNumber, minor := greatestNumber, patch := greatestNumber }

/-- Puts a version together.  Refused are empty identifiers, numbers with a
leading zero in the pre-release, and identifiers without a place in the order. -/
def ofParts? (major minor patch : Int) (preRelease build : List Identifier) : Option Version :=
  if (preReleaseFault? preRelease).isNone && (buildFault? build).isNone
      && (preRelease ++ build).all Identifier.isOrdered then
    some { major, minor, patch, preRelease, build }
  else
    none

/-- The three numbers in writing, with dots between them. -/
def tripleText (major minor patch : Int) : Text :=
  Text.dotted [(toString major).toList, (toString minor).toList, (toString patch).toList]

/-- A version in writing. -/
def toText (v : Version) : Text :=
  tripleText v.major v.minor v.patch
    ++ (if v.preRelease.isEmpty then [] else '-' :: Text.dotted v.preRelease)
    ++ (if v.build.isEmpty then [] else '+' :: Text.dotted v.build)

end Version

end SemverRange
