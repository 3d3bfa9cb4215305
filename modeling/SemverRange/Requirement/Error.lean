/-
SemverRange/Requirement/Error.lean

Why a text is no requirement.
-/
import SemverRange.Literal.Bounds
import SemverRange.Text.Quoted

namespace SemverRange

/-- What is wrong with a requirement. -/
inductive RequirementError.Cause where
  /-- Something is, perhaps in this fragment. -/
  | unspecified (fragment : Option Text)
  /-- The text stops making sense at this position. -/
  | unreadable (position : Int)
  /-- The fragment combines fields in a way that is not allowed. -/
  | rejected (fragment : Text)
  /-- A field is no number. -/
  | notANumber (field : Text)
  deriving DecidableEq, Repr

/-- An error about a requirement. -/
structure RequirementError where
  requirement : Text
  cause : RequirementError.Cause
  /-- A wording to use in place of the usual one, unless it is empty. -/
  wording : String := ""
  deriving DecidableEq, Repr

namespace RequirementError

/-- The part of the requirement that is to blame, if it is known. -/
def fragment? (e : RequirementError) : Option Text :=
  match e.cause with
  | .unspecified fragment => fragment
  | .unreadable position => some (Text.fromPosition e.requirement position)
  | .rejected fragment => some fragment
  | .notANumber _ => none

/-- The usual wording of an error. -/
def usualWording (e : RequirementError) : String :=
  let shown (s : Text) : String := String.ofList (Text.quoted s)
  match e.cause with
  | .unspecified _ => "Invalid requirement: " ++ shown e.requirement
  | .unreadable position =>
    "Cannot parse requirement " ++ shown e.requirement ++ " at position " ++ toString position
      ++ ": " ++ shown (Text.fromPosition e.requirement position)
  | .rejected fragment =>
    "Invalid requirement format " ++ shown fragment ++ " in " ++ shown e.requirement
  | .notANumber field => Text.Numeral.refusal field

/-- The wording of an error. -/
def message (e : RequirementError) : String :=
  if e.wording.isEmpty then e.usualWording else e.wording

/-- Makes a clause without meaning an error about the requirement it is in. -/
def ofMeaningError (requirement : Text) : MeaningError → RequirementError
  | .rejected fragment => { requirement, cause := .rejected fragment }
  | .notANumber field => { requirement, cause := .notANumber field }

end RequirementError

end SemverRange
