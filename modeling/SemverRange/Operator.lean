/-
SemverRange/Operator.lean

Comparison operators and the signs that write them.
-/
import SemverRange.Text.Blank

namespace SemverRange

/-- A comparison operator. -/
inductive Operator where
  | equal
  | greater
  | less
  | greaterOrEqual
  | lessOrEqual
  | tilde
  | caret
  deriving DecidableEq, Repr

namespace Operator

/-- The signs of the operators. -/
def signs : List (Text × Operator) :=
  [(['='], equal), (['>'], greater), (['<'], less), (['<', '='], lessOrEqual),
   (['>', '='], greaterOrEqual), (['~'], tilde), (['^'], caret)]

/-- The operator that a sign stands for, blanks around it apart.  A missing or
blank sign means equality. -/
def ofSign? : Option Text → Option Operator
  | none => some equal
  | some s => if (Text.strip s).isEmpty then some equal else signs.lookup (Text.strip s)

end Operator

end SemverRange
