/-
SemverRange/Session.lean

Sessions: requirements under names, and a log level that can be changed on the
way.

A name is free again as soon as something new is compiled under it, even if
that fails.
-/
import SemverRange.Log
import SemverRange.Requirement.Basic

namespace SemverRange

/-- The state of a session. -/
structure Session where
  level : Level := .warning
  requirements : List (Text × Requirement) := []
  deriving DecidableEq, Repr

namespace Session

/-- One step of a session. -/
inductive Step where
  /-- Chooses the log level. -/
  | configure (name environment : Option Text)
  /-- Compiles a requirement and keeps it under a name. -/
  | compile (name requirement : Text)
  /-- Asks whether a version meets the requirement of that name. -/
  | check (name version : Text)
  /-- Asks whether two requirements have the same clauses. -/
  | compare (name other : Text)
  /-- Asks for the text of a requirement. -/
  | recall (name : Text)
  deriving DecidableEq, Repr

/-- The answer to a step. -/
inductive Answer where
  | level (level : Level)
  | compiled (requirement : Requirement)
  | refused (error : RequirementError)
  | verdict (holds : Bool)
  | malformed (error : VersionError)
  | text (text : Text)
  /-- There is no requirement of that name. -/
  | absent
  deriving DecidableEq, Repr

/-- The requirement of a given name. -/
def find? (s : Session) (name : Text) : Option Requirement :=
  s.requirements.lookup name

/-- Frees a name. -/
def erase (s : Session) (name : Text) : Session :=
  { s with requirements := s.requirements.filter (·.1 != name) }

/-- Keeps a requirement under a name. -/
def insert (s : Session) (name : Text) (r : Requirement) : Session :=
  { s with requirements := (name, r) :: (s.erase name).requirements }

/-! ### What a name stands for -/

theorem find?_erase_self (s : Session) (name : Text) : (s.erase name).find? name = none := by
  simp only [find?, erase, List.lookup_eq_none_iff, List.mem_filter]
  intro p hp
  have hne : p.1 ≠ name := by simpa using hp.2
  simpa using hne.symm

theorem find?_erase_of_ne (s : Session) {name other : Text} (h : other ≠ name) :
    (s.erase name).find? other = s.find? other := by
  simp only [find?, erase]
  induction s.requirements with
  | nil => rfl
  | cons p rs ih =>
    obtain ⟨n, r⟩ := p
    by_cases hn : n = name
    · -- the entry goes, and it was not the one looked for
      have hne : (other == name) = false := by simpa using h
      simp [hn, List.lookup_cons, hne, ih]
    · simp [hn, List.lookup_cons, ih]

theorem find?_insert_self (s : Session) (name : Text) (r : Requirement) :
    (s.insert name r).find? name = some r := by
  simp [find?, insert]

theorem find?_insert_of_ne (s : Session) {name other : Text} (r : Requirement)
    (h : other ≠ name) : (s.insert name r).find? other = s.find? other := by
  have hne : (other == name) = false := by simpa using h
  rw [← find?_erase_of_ne s h]
  simp [find?, insert, List.lookup_cons, hne]

/-! ### Steps -/

/-- The answer to the question whether a version meets a requirement. -/
def verdict (r : Requirement) (version : Text) : Answer :=
  match Version.ofText version with
  | .error e => .malformed e
  | .ok v => .verdict (r.isMetBy v)

/-- Takes one step.  The answer comes with the part of the log that is shown. -/
def step (s : Session) : Step → Session × Answer × String
  | .configure name environment =>
    let level := Level.choose name environment
    ({ s with level }, .level level, "")
  | .compile name requirement =>
    let compiled := Requirement.compile requirement
    let log := LogLine.shown s.level (compiled.events.map LogLine.ofEvent)
    match compiled.outcome with
    | .error e => (s.erase name, .refused e, log)
    | .ok r => (s.insert name r, .compiled r, log)
  | .check name version =>
    match s.find? name with
    | none => (s, .absent, "")
    | some r => (s, verdict r version, "")
  | .compare name other =>
    match s.find? name, s.find? other with
    | some r, some r' => (s, .verdict (r.hasSameClauses r'), "")
    | _, _ => (s, .absent, "")
  | .recall name =>
    match s.find? name with
    | none => (s, .absent, "")
    | some r => (s, .text r.text, "")

/-- Takes steps one after the other and collects what comes with each. -/
def run (s : Session) : List Step → List (Answer × String)
  | [] => []
  | t :: ts => (s.step t).2 :: (s.step t).1.run ts

end Session

end SemverRange
