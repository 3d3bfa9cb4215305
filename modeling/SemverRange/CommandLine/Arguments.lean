/-
SemverRange/CommandLine/Arguments.lean

Reading the arguments of the command line: a requirement, one or more versions,
and the options `-h`/`--help`, `-q`/`--quiet` and `--loglevel LEVEL`.

Options may stand anywhere.  A long one may be cut short as long as it stays
unambiguous and takes its value after `=` or from the next argument; short ones
can share one hyphen, as in `-qh` or `-q=h`.  After `--` nothing is an option.

Positional arguments are taken in stretches.  A stretch is what stands between
two options; the first one gives the requirement and, if anything is left of
it, all the versions, otherwise the next one gives the versions.  Further
stretches are too much.

These are the rules of `argparse` in the first releases of 3.11, such as 3.11.2.
Later ones differ in corners: they refuse `-q=q` and `-q=h`, they answer `-hx`
with help, and they refuse `--loglevel=--`.
-/
import SemverRange.Log
import SemverRange.Text.Digit

namespace SemverRange.CommandLine

/-- What the arguments ask for. -/
structure Settings where
  requirement : Text
  versions : List Text
  quiet : Bool
  /-- The name of the log level, in capitals. -/
  level : Option Text
  deriving DecidableEq, Repr

/-- Why there is nothing to check. -/
inductive Stop where
  /-- Help was asked for. -/
  | help
  /-- The arguments make no sense. -/
  | usage
  deriving DecidableEq, Repr

namespace Stop

/-- The exit code of a stop. -/
def exitCode : Stop → Nat
  | help => 0
  | usage => 2

end Stop

/-! ### Single arguments -/

/-- What an option does. -/
inductive Flag where
  | help
  | quiet
  | logLevel
  deriving DecidableEq, Repr

/-- The options with a name. -/
def longFlags : List (Text × Flag) :=
  [("help".toList, .help), ("quiet".toList, .quiet), ("loglevel".toList, .logLevel)]

/-- The options with a letter. -/
def shortFlag? : Char → Option Flag
  | 'h' => some .help
  | 'q' => some .quiet
  | _ => none

/-- The options that the text behind the first letter adds to it.  An equals
sign may stand in front of them, though not alone; every other character has to
be the letter of an option.  All of them are looked at before any is acted on,
as `argparse` did in 3.11.2: `-hx` is an error, and not a call for help. -/
def sharedFlags? : Text → Option (List Flag)
  | ['='] => none
  | '=' :: row => row.mapM shortFlag?
  | row => row.mapM shortFlag?

/-- The argument after which nothing is an option. -/
def separatorMark : Text := ['-', '-']

/-- An argument, taken for itself. -/
inductive Token where
  /-- A positional argument. -/
  | operand (text : Text)
  /-- The `--` after which nothing is an option. -/
  | separator
  /-- An option by name, with the value behind its `=`. -/
  | long (flag : Flag) (value : Option Text)
  /-- An option by letter, and what follows in the same argument. -/
  | short (flag : Flag) (row : Text)
  /-- An option that does not exist. -/
  | unknown
  deriving DecidableEq, Repr

/-- Whether the text behind a hyphen makes a negative number: digits, or a
decimal point with digits behind it.  One line feed at the end is overlooked. -/
def isUnsigned (s : Text) : Bool :=
  let t := if s.getLast? = some '\n' then s.dropLast else s
  match t.dropWhile Text.isDigit with
  | [] => !t.isEmpty
  | '.' :: u => !u.isEmpty && u.all Text.isDigit
  | _ => false

/-- What an argument is that looks like an option but is none. -/
def unclaimed (arg : Text) : Token :=
  if isUnsigned (arg.drop 1) || arg.contains ' ' then .operand arg else .unknown

/-- What an argument is before any `--`.  There is no answer if it cuts the name
of an option too short. -/
def token? (arg : Text) : Option Token :=
  match arg with
  | '-' :: '-' :: s =>
    let name := s.takeWhile (· != '=')
    match longFlags.filter (name.isPrefixOf ·.1) with
    | [] => some (unclaimed arg)
    | [(_, flag)] => some (.long flag ((s.dropWhile (· != '=')).tail?))
    | _ => none
  | '-' :: c :: s =>
    match shortFlag? c with
    | some flag => some (.short flag s)
    | none => some (unclaimed arg)
  | _ => some (.operand arg)

/-- What the arguments are, each for itself. -/
def tokens? : List Text → Option (List Token)
  | [] => some []
  | arg :: args =>
    if arg = separatorMark then some (.separator :: args.map .operand)
    else
      match token? arg, tokens? args with
      | some t, some ts => some (t :: ts)
      | _, _ => none

/-! ### All arguments together -/

/-- What the arguments so far have asked for. -/
structure Progress where
  requirement : Option Text := none
  versions : Option (List Text) := none
  quiet : Bool := false
  level : Option Text := none
  /-- Whether there was anything that nobody asked for. -/
  surplus : Bool := false
  deriving DecidableEq, Repr

namespace Token

/-- Whether a token is a positional argument. -/
def isOperand : Token → Bool
  | operand _ => true
  | _ => false

/-- The text of a token within a stretch. -/
def text : Token → Text
  | operand t => t
  | _ => separatorMark

end Token

namespace Progress

/-- Takes a stretch for the versions.  The first `--` in it goes, be it the
separator or not. -/
def takeVersions (p : Progress) (stretch : List Token) : Progress :=
  if stretch.any Token.isOperand then
    { p with versions := some ((stretch.map Token.text).erase separatorMark) }
  else
    { p with surplus := p.surplus || !stretch.isEmpty }

/-- Takes a stretch of positional arguments. -/
def takeStretch (p : Progress) (stretch : List Token) : Progress :=
  match p.requirement, p.versions with
  | none, _ =>
    match stretch.dropWhile (!·.isOperand) with
    | [] => { p with surplus := p.surplus || !stretch.isEmpty }
    | t :: ts =>
      -- separators right behind the requirement belong to it
      takeVersions { p with requirement := some t.text } (ts.dropWhile (!·.isOperand))
  | some _, none => p.takeVersions stretch
  | some _, some _ => { p with surplus := p.surplus || !stretch.isEmpty }

/-- Notes an option that takes no value. -/
def takeFlag (p : Progress) : Flag → Except Stop Progress
  | .help => .error .help
  | _ => .ok { p with quiet := true }

/-- Notes the options that share a hyphen, first to last; `row` is what follows
the first of them. -/
def takeLetters (p : Progress) (first : Flag) (row : Text) : Except Stop Progress :=
  match sharedFlags? row with
  | none => .error .usage
  | some flags => (first :: flags).foldlM takeFlag p

/-- Notes the name of a log level.  The separator given as a name takes the
level back, as in `argparse` of 3.11.2, where it was dropped from the values of
any argument. -/
def takeLevel (p : Progress) (name : Text) : Except Stop Progress :=
  let allowed := ["DEBUG", "INFO", "WARNING", "ERROR", "CRITICAL"].map String.toList
  let inCapitals := name.map Level.capital
  if name = separatorMark then .ok { p with level := none }
  else if allowed.contains inCapitals then .ok { p with level := some inCapitals }
  else .error .usage

/-- Works through the arguments; `stretch` holds the positional ones since the
last option. -/
def run (p : Progress) (stretch : List Token) : List Token → Except Stop Progress
  | [] => .ok (p.takeStretch stretch)
  | .operand t :: ts => p.run (stretch ++ [.operand t]) ts
  | .separator :: ts => p.run (stretch ++ [.separator]) ts
  | .unknown :: ts => ({ p.takeStretch stretch with surplus := true } : Progress).run [] ts
  | .short flag row :: ts =>
    match (p.takeStretch stretch).takeLetters flag row with
    | .error stop => .error stop
    | .ok p => p.run [] ts
  | .long .logLevel (some value) :: ts =>
    match (p.takeStretch stretch).takeLevel value with
    | .error stop => .error stop
    | .ok p => p.run [] ts
  | .long .logLevel none :: .operand value :: ts =>
    match (p.takeStretch stretch).takeLevel value with
    | .error stop => .error stop
    | .ok p => p.run [] ts
  | .long .logLevel none :: _ => .error .usage
  | .long _ (some _) :: _ => .error .usage
  | .long flag none :: ts =>
    match (p.takeStretch stretch).takeFlag flag with
    | .error stop => .error stop
    | .ok p => p.run [] ts

/-- The settings, if nothing is missing and nothing too much. -/
def settings? (p : Progress) : Option Settings :=
  match p.requirement, p.versions, p.surplus with
  | some requirement, some versions, false =>
    some { requirement, versions, quiet := p.quiet, level := p.level }
  | _, _, _ => none

end Progress

/-- Reads the arguments of the command line. -/
def readArguments (args : List Text) : Except Stop Settings :=
  match tokens? args with
  | none => .error .usage
  | some ts =>
    match ({} : Progress).run [] ts with
    | .error stop => .error stop
    | .ok p =>
      match p.settings? with
      | none => .error .usage
      | some s => .ok s

end SemverRange.CommandLine
