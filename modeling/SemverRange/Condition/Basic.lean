/-
SemverRange/Condition/Basic.lean

What a requirement says, as written: groups of conditions.

A group keeps its conditions in the order of the text.  Its comparisons and its
dash ranges are views of that one list.
-/
import SemverRange.Literal.Basic

namespace SemverRange

/-- A literal with or without the sign of an operator in front. -/
structure Comparison where
  sign : Option Text
  version : Literal
  deriving DecidableEq, Repr

/-- A range from one literal to another. -/
structure DashRange where
  lower : Literal
  upper : Literal
  deriving DecidableEq, Repr

/-- One condition of a group. -/
inductive Condition where
  | comparison (c : Comparison)
  | dashRange (d : DashRange)
  deriving DecidableEq, Repr

namespace Condition

/-- The comparison that a condition is, if it is one. -/
def comparison? : Condition → Option Comparison
  | comparison c => some c
  | dashRange _ => none

/-- The dash range that a condition is, if it is one. -/
def dashRange? : Condition → Option DashRange
  | comparison _ => none
  | dashRange d => some d

end Condition

/-- Conditions that have to hold together. -/
abbrev Group := List Condition

namespace Group

/-- The comparisons of a group, in order. -/
def comparisons (g : Group) : List Comparison :=
  g.filterMap Condition.comparison?

/-- The dash ranges of a group, in order. -/
def dashRanges (g : Group) : List DashRange :=
  g.filterMap Condition.dashRange?

/-- The conditions of a group with all dash ranges moved to the end. -/
def dashesLast (g : Group) : List Condition :=
  (comparisons g).map .comparison ++ (dashRanges g).map .dashRange

end Group

end SemverRange
