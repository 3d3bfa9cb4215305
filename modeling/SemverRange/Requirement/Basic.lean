/-
SemverRange/Requirement/Basic.lean

Requirements: alternatives, each a list of clauses that have to hold together.

A requirement is compiled once from its text and can then be tested against any
number of versions.  In each alternative the clauses of comparisons come first,
those of explicit dash ranges after them; within either kind the order is that
of the text.  An alternative without clauses holds of every version, and a
requirement without alternatives of none.
-/
import SemverRange.Clause
import SemverRange.Condition.Reader
import SemverRange.Condition.SpacedDash
import SemverRange.Requirement.Error
import SemverRange.Requirement.Trace
import SemverRange.Version.Reader

namespace SemverRange

/-- Whether a version meets all clauses of a list. -/
def meetsAll (clauses : List Clause) (v : Version) : Bool :=
  clauses.all (·.isMetBy v)

/-- Whether a version meets all clauses of one of the alternatives. -/
def meetsAny (alternatives : List (List Clause)) (v : Version) : Bool :=
  alternatives.any (meetsAll · v)

/-- A compiled requirement. -/
structure Requirement where
  /-- The text of the requirement, without blanks around it. -/
  text : Text
  alternatives : List (List Clause)
  deriving DecidableEq, Repr

namespace Requirement

/-! ### Compilation -/

/-- Works out the clause of one condition of the requirement `raw`. -/
def compileCondition (raw : Text) : Condition → Traced MeaningError Clause
  | .dashRange d => { events := [], outcome := d.clause }
  | .comparison c =>
    match c.dashRange? raw with
    | none => { events := [], outcome := c.clause }
    | some d =>
      { events := [.dashResolved d.lower.toText d.upper.toText raw], outcome := d.clause }

/-- Works out the clauses of one group of the requirement `raw`. -/
def compileGroup (raw : Text) (g : Group) : Traced MeaningError (List Clause) :=
  Traced.forEach (compileCondition raw) (Group.dashesLast g)

/-- Compiles a requirement that has no blanks around it. -/
def compileStripped (raw : Text) : Traced RequirementError Requirement :=
  match parse raw with
  | .error position =>
    { events := [], outcome := .error { requirement := raw, cause := .unreadable position } }
  | .ok groups =>
    let traced := Traced.forEach (compileGroup raw) groups
    match traced.outcome with
    | .error e =>
      { events := traced.events, outcome := .error (RequirementError.ofMeaningError raw e) }
    | .ok alternatives =>
      let clauses := alternatives.flatten.length
      { events := traced.events ++ [.requirementCompiled raw alternatives.length clauses]
        outcome := .ok { text := raw, alternatives } }

/-- Compiles a requirement. -/
def compile (s : Text) : Traced RequirementError Requirement :=
  compileStripped (Text.strip s)

/-- The requirement that a text writes. -/
def ofText (s : Text) : Except RequirementError Requirement :=
  (compile s).outcome

/-! ### Use -/

/-- Whether a version meets a requirement. -/
def isMetBy (r : Requirement) (v : Version) : Bool :=
  meetsAny r.alternatives v

/-- Whether a version meets a requirement, both in writing.  The requirement is read
first, so it is the one to blame if both are malformed. -/
def satisfies (version requirement : Text) : Except (RequirementError ⊕ VersionError) Bool :=
  match ofText requirement with
  | .error e => .error (.inl e)
  | .ok r =>
    match Version.ofText version with
    | .error e => .error (.inr e)
    | .ok v => .ok (r.isMetBy v)

/-- Whether two requirements have the same clauses in the same places. -/
def hasSameClauses (r s : Requirement) : Bool :=
  r.alternatives = s.alternatives

/-- A requirement as it is shown to a programmer. -/
def display (r : Requirement) : Text :=
  "NpmVersionRequirement(".toList ++ Text.quoted r.text ++ [')']

end Requirement

end SemverRange
