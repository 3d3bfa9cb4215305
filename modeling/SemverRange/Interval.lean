/-
SemverRange/Interval.lean

Intervals of versions.  Each end belongs to the interval or not, independently
of the other.  An end that belongs to it brings along every equivalent
version, even where the ends are in the wrong order.
-/
import SemverRange.Version.Precedence

namespace SemverRange

/-- An interval of versions. -/
structure Interval where
  lower : Version
  upper : Version
  /-- Whether the lower end belongs to the interval. -/
  hasLower : Bool := true
  /-- Whether the upper end belongs to the interval. -/
  hasUpper : Bool := true
  deriving DecidableEq, Repr

namespace Interval

/-- From the least version to the greatest. -/
def whole : Interval :=
  { lower := Version.least, upper := Version.greatest }

/-- The interval in which no version lies. -/
def void : Interval :=
  { lower := Version.greatest, upper := Version.least, hasLower := false, hasUpper := false }

/-- Whether a version lies in an interval: at an end that belongs to it, or
strictly between the ends. -/
def contains (i : Interval) (v : Version) : Bool :=
  i.hasLower && v.isEquivalentTo i.lower
    || i.hasUpper && v.isEquivalentTo i.upper
    || v.isNewerThan i.lower && v.isOlderThan i.upper

/-- An interval in writing; a square bracket marks an end that belongs to it. -/
def toText (i : Interval) : Text :=
  (if i.hasLower then '[' else '(') :: i.lower.toText ++ [',', ' '] ++ i.upper.toText
    ++ [if i.hasUpper then ']' else ')']

end Interval

end SemverRange
