/-
SemverRange/CommandLine/Report.lean

What the command line answers: which versions meet the requirement.

The requirement is judged before any version is looked at, and all versions are
read before any is reported on, so a malformed version leaves no output.
-/
import SemverRange.CommandLine.Arguments
import SemverRange.Requirement.Basic

namespace SemverRange.CommandLine

/-- How a check ends. -/
inductive Status where
  | allMet
  | invalidVersion
  | invalidRequirement
  | someUnmet
  deriving DecidableEq, Repr

namespace Status

/-- The exit code of a status. -/
def exitCode : Status → Nat
  | allMet => 0
  | invalidVersion => 1
  | invalidRequirement => 2
  | someUnmet => 3

end Status

/-- The answer of the command line. -/
structure Report where
  status : Status
  output : Text
  log : List LogLine
  deriving DecidableEq, Repr

/-- The line of output about one version. -/
def verdictLine (raw : Text) (met : Bool) : Text :=
  raw ++ '\t' :: (if met then "satisfied" else "not satisfied").toList ++ ['\n']

/-- Checks the versions against the requirement. -/
def check (s : Settings) : Report :=
  let compiled := Requirement.compile s.requirement
  let log := compiled.events.map LogLine.ofEvent
  match compiled.outcome with
  | .error e =>
    { status := .invalidRequirement, output := []
      log := log ++ [{ level := .error, message := e.message }] }
  | .ok r =>
    match s.versions.mapM Version.ofText with
    | .error e =>
      { status := .invalidVersion, output := []
        log := log ++ [{ level := .error, message := "Invalid version: " ++ e.message }] }
    | .ok versions =>
      let verdicts := versions.map r.isMetBy
      { status := if verdicts.all id then .allMet else .someUnmet
        output := if s.quiet then [] else (s.versions.zipWith verdictLine verdicts).flatten
        log }

/-- The part of the log that is shown, given the level in the environment. -/
def Report.shownLog (r : Report) (s : Settings) (environment : Option Text) : String :=
  LogLine.shown (Level.choose s.level environment) r.log

/-- What a run of the program leaves behind: its exit code, what it writes to standard
output, and the log that it writes to standard error. -/
structure Transcript where
  exitCode : Nat
  output : Text
  log : String
  deriving DecidableEq, Repr

/-- Runs the program on its arguments and the level in the environment. -/
def run (args : List Text) (environment : Option Text) : Except Stop Transcript :=
  (readArguments args).map fun s =>
    let report := check s
    { exitCode := report.status.exitCode
      output := report.output
      log := report.shownLog s environment }

end SemverRange.CommandLine
