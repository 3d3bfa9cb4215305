/-
SemverRange/Log.lean

Log levels and log lines.

The level is chosen by name, in either case of letters.  An explicit name goes
before the one from the environment; an empty name counts as none, and a name
that nothing answers to means `warning`, as no name does.
-/
import SemverRange.Requirement.Trace

namespace SemverRange

/-- How much a log line matters, or how much it has to matter to be shown. -/
inductive Level where
  | notSet
  | debug
  | info
  | warning
  | error
  | critical
  deriving DecidableEq, Repr

namespace Level

/-- The weight of a level. -/
def weight : Level → Nat
  | notSet => 0
  | debug => 10
  | info => 20
  | warning => 30
  | error => 40
  | critical => 50

/-- The names of the levels; some have two. -/
def names : List (Text × Level) :=
  [("NOTSET".toList, notSet), ("DEBUG".toList, debug), ("INFO".toList, info),
   ("WARN".toList, warning), ("WARNING".toList, warning), ("ERROR".toList, error),
   ("CRITICAL".toList, critical), ("FATAL".toList, critical)]

/-- The capital of a letter whose capital is a letter of ASCII; the dotless i
and the long s are among them.  Other characters stay. -/
def capital (c : Char) : Char :=
  if c = '\u0131' then 'I' else if c = '\u017f' then 'S' else c.toUpper

/-- The level with a given name. -/
def ofName? (name : Text) : Option Level :=
  names.lookup (name.map capital)

/-- Drops a name that is empty. -/
def given? : Option Text → Option Text
  | some [] => none
  | name => name

/-- The level that an explicit name and the environment ask for. -/
def choose (name environment : Option Text) : Level :=
  match (given? name).or (given? environment) with
  | none => warning
  | some n => (ofName? n).getD warning

/-- A level as a log line shows it. -/
def label : Level → String
  | notSet => "NOTSET"
  | debug => "DEBUG"
  | info => "INFO"
  | warning => "WARNING"
  | error => "ERROR"
  | critical => "CRITICAL"

end Level

/-- A line of the log. -/
structure LogLine where
  level : Level
  message : String
  deriving DecidableEq, Repr

namespace LogLine

/-- The line that an event leaves in the log. -/
def ofEvent (e : Event) : LogLine :=
  { level := .debug, message := e.message }

/-- A log line in writing. -/
def toString (l : LogLine) : String :=
  "[" ++ l.level.label ++ "] " ++ l.message ++ "\n"

/-- What of the log is shown when lines have to matter as much as `threshold`. -/
def shown (threshold : Level) (lines : List LogLine) : String :=
  String.join ((lines.filter (threshold.weight ≤ ·.level.weight)).map toString)

end LogLine

end SemverRange
