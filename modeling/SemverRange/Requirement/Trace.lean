/-
SemverRange/Requirement/Trace.lean

What can be noted while a requirement is compiled.

A traced computation holds the events in the order in which they happened and
the outcome.  Events that happened before a failure are kept.
-/
import SemverRange.Text.Basic

namespace SemverRange

/-- Something worth noting about a compilation. -/
inductive Event where
  /-- A comparison turned out to be a range from `lower` to `upper`. -/
  | dashResolved (lower upper requirement : Text)
  /-- The requirement is compiled; the numbers are those of its groups and of
  all their clauses. -/
  | requirementCompiled (requirement : Text) (groups clauses : Nat)
  deriving DecidableEq, Repr

namespace Event

/-- The name of an event. -/
def name : Event → String
  | dashResolved .. => "dash_resolved"
  | requirementCompiled .. => "requirement_compiled"

/-- The part of the library that an event comes from. -/
def component : Event → String
  | dashResolved .. => "dash"
  | requirementCompiled .. => "requirement"

/-- An event in words. -/
def message : Event → String
  | dashResolved .. => "Pre-release read as dash range"
  | requirementCompiled .. => "Requirement compiled"

end Event

/-- An outcome together with the events on the way to it. -/
structure Traced (ε α : Type) where
  events : List Event
  outcome : Except ε α

namespace Traced

variable {ε α β : Type}

/-- Treats the members of a list in turn, up to the first that fails. -/
def forEach (f : α → Traced ε β) : List α → Traced ε (List β)
  | [] => { events := [], outcome := .ok [] }
  | a :: as =>
    match (f a).outcome with
    | .error e => { events := (f a).events, outcome := .error e }
    | .ok b =>
      let rest := forEach f as
      { events := (f a).events ++ rest.events, outcome := rest.outcome.map (b :: ·) }

end Traced

end SemverRange
