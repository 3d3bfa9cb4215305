/-
SemverRange/Main.lean

The command line.  It reads the arguments and the environment, and prints the
report: verdicts to standard output, the log to standard error.
-/
import SemverRange.CommandLine.Report

namespace SemverRange.CommandLine

/-- How to call the program. -/
def usage : String :=
  "usage: [-h] [-q] [--loglevel LEVEL] requirement version [version ...]"

end SemverRange.CommandLine

open SemverRange.CommandLine in
/-- Checks the versions given as arguments against the requirement. -/
def main (args : List String) : IO UInt32 := do
  let environment ← IO.getEnv "NPMREQ_LOG_LEVEL"
  match run (args.map String.toList) (environment.map String.toList) with
  | .error .help =>
    IO.println usage
    return (Stop.exitCode .help).toUInt32
  | .error .usage =>
    IO.eprintln usage
    return (Stop.exitCode .usage).toUInt32
  | .ok transcript =>
    IO.eprint transcript.log
    IO.print (String.ofList transcript.output)
    return transcript.exitCode.toUInt32
