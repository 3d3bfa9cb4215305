/-
SemverRange/Clause.lean

Clauses: conditions with their interval worked out.

    =  [lowest, highest)          >  (lowest, greatest]     >=  [lowest, greatest]
    ~  [lowest, tilde bound)      <  [least, lowest)        <=  [least, lowest]
    ^  [lowest, caret bound)      a - b  [lowest of a, highest of b]

Two rules go beyond the interval.  Under tilde and caret a pre-release only
counts if it has the numbers of the lower end; a dash range takes releases
without build metadata only.
-/
import SemverRange.Condition.Basic
import SemverRange.Interval
import SemverRange.Literal.Bounds
import SemverRange.Operator

namespace SemverRange

/-- Where a clause comes from. -/
inductive Clause.Kind where
  | comparison (operator : Operator)
  | dash
  deriving DecidableEq, Repr

/-- A condition ready to be tested. -/
structure Clause where
  kind : Clause.Kind
  interval : Interval
  /-- Whether a pre-release must have the numbers of the lower end. -/
  guardsPreReleases : Bool := false
  /-- Whether versions with a pre-release or build metadata are left out. -/
  releasesOnly : Bool := false
  deriving DecidableEq, Repr

namespace Clause

/-- Whether a version meets a clause. -/
def isMetBy (c : Clause) (v : Version) : Bool :=
  !(c.releasesOnly && v.isTagged)
    && !(c.guardsPreReleases && v.isPreRelease && !v.hasSameBase c.interval.lower)
    && c.interval.contains v

namespace Kind

/-- The name of a kind. -/
def name : Kind → String
  | comparison .equal => "equal"
  | comparison .greater => "greater_than"
  | comparison .less => "less_than"
  | comparison .greaterOrEqual => "greater_or_equal"
  | comparison .lessOrEqual => "less_or_equal"
  | comparison .tilde => "tilde"
  | comparison .caret => "caret"
  | dash => "dash"

end Kind

/-- A clause in writing: its kind and its interval. -/
def toText (c : Clause) : Text :=
  c.kind.name.toList ++ ' ' :: c.interval.toText

end Clause

/-- The clause of an operator before the literal that stands for all versions.
Nothing is greater or less than every version; all else holds of any. -/
def Operator.clauseOfAny (o : Operator) : Clause :=
  match o with
  | .greater | .less => { kind := .comparison o, interval := .void }
  | _ => { kind := .comparison o, interval := .whole }

/-- The interval of an operator before a literal, given the lowest version of
that literal. -/
def Operator.intervalFrom (o : Operator) (l : Literal) (lowest : Version) :
    Except MeaningError Interval :=
  let upTo (bound : Except MeaningError Version) : Except MeaningError Interval :=
    bound.map fun upper => { lower := lowest, upper, hasUpper := false }
  match o with
  | .greater => .ok { lower := lowest, upper := .greatest, hasLower := false }
  | .greaterOrEqual => .ok { lower := lowest, upper := .greatest }
  | .less => .ok { lower := .least, upper := lowest, hasUpper := false }
  | .lessOrEqual => .ok { lower := .least, upper := lowest }
  | .tilde => upTo l.tildeBound
  | .caret => upTo l.caretBound
  | .equal => upTo l.highest

namespace Comparison

/-- Works out the clause of an operator and a literal. -/
def clauseFor (o : Operator) (l : Literal) : Except MeaningError Clause := do
  l.check
  if l.isAny then return o.clauseOfAny
  let lowest ← l.lowest
  let interval ← o.intervalFrom l lowest
  return {
    kind := .comparison o
    interval
    guardsPreReleases := o = .tilde || o = .caret }

/-- Works out the clause of a comparison.  An unknown sign is to blame itself. -/
def clause (c : Comparison) : Except MeaningError Clause :=
  match Operator.ofSign? c.sign with
  | none => .error (.rejected (c.sign.getD []))
  | some o => clauseFor o c.version

end Comparison

/-- Works out the clause of a dash range. -/
def DashRange.clause (d : DashRange) : Except MeaningError Clause := do
  let lower ← d.lower.lowest
  let upper ← d.upper.highest
  return { kind := .dash, interval := { lower, upper }, releasesOnly := true }

end SemverRange
