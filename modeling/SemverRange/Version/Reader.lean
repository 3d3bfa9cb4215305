/-
SemverRange/Version/Reader.lean

Versions from text.  The text is stripped and one letter `v` in front is
dropped; what is left must be three runs of decimal digits with dots between,
then if wanted a hyphen and a pre-release, then if wanted a plus sign and build
metadata.  Numbers must not have a zero in front, and the identifiers must be
sound.  Of several faults the leftmost is reported, but the overall shape is
looked at before any part.
-/
import SemverRange.Text.Blank
import SemverRange.Text.Quoted
import SemverRange.Version.Basic

namespace SemverRange

/-- Why a text is no version. -/
inductive VersionError where
  /-- There is nothing to read. -/
  | empty
  /-- The text does not have the shape of a version. -/
  | malformed (text : Text)
  /-- A number has a zero in front; `field` names the number. -/
  | leadingZero (field : String) (text : Text)
  /-- An identifier of the pre-release or of the build metadata is unsound. -/
  | identifier (fault : IdentifierFault)
  deriving DecidableEq, Repr

namespace VersionError

/-- The wording of an error. -/
def message : VersionError → String
  | .empty => "Invalid empty version string: ''"
  | .malformed text => "Invalid version string: " ++ String.ofList (Text.quoted text)
  | .leadingZero field text =>
    "Invalid leading zero in " ++ field ++ ": " ++ String.ofList (Text.quoted text)
  | .identifier (.empty ids) =>
    "Invalid empty identifier '' in " ++ String.ofList (Text.quoted (Text.dotted ids))
  | .identifier (.leadingZero i) =>
    "Invalid leading zero in identifier " ++ String.ofList (Text.quoted i)

end VersionError

namespace Version

/-- The parts of a version text, before any of them is looked into. -/
structure Parts where
  major : Text
  minor : Text
  patch : Text
  preRelease : Option Text
  build : Option Text
  deriving DecidableEq, Repr

/-- Whether a character may stand in a pre-release or in build metadata. -/
def isTagChar (c : Char) : Bool :=
  c.isAlphanum || c = '-' || c = '.'

/-- Reads a run of decimal digits. -/
def readNumber? (s : Text) : Option (Text × Text) :=
  match s.takeWhile Text.isDigit with
  | [] => none
  | ds => some (ds, s.dropWhile Text.isDigit)

/-- Reads a dot and a run of decimal digits. -/
def readDotNumber? : Text → Option (Text × Text)
  | '.' :: s => readNumber? s
  | _ => none

/-- Reads the part that `mark` announces, if there is one. -/
def readTag (mark : Char) : Text → Option Text × Text
  | [] => (none, [])
  | c :: s =>
    match c == mark, s.takeWhile isTagChar with
    | true, t :: ts => (some (t :: ts), s.dropWhile isTagChar)
    | _, _ => (none, c :: s)

/-- Cuts a version text into its parts. -/
def parts? (s : Text) : Option Parts := do
  let (major, s) ← readNumber? s
  let (minor, s) ← readDotNumber? s
  let (patch, s) ← readDotNumber? s
  let pre := readTag '-' s
  let build := readTag '+' pre.2
  if build.2.isEmpty then some { major, minor, patch, preRelease := pre.1, build := build.1 }
  else none

/-- The identifiers of a part. -/
def identifiers : Option Text → List Identifier
  | none => []
  | some s => s.splitOn '.'

/-- The first fault inside the parts of the version text `s`. -/
def Parts.fault? (p : Parts) (s : Text) : Option VersionError :=
  if Identifier.hasLeadingZero p.major then some (.leadingZero "major" s)
  else if Identifier.hasLeadingZero p.minor then some (.leadingZero "minor" s)
  else if Identifier.hasLeadingZero p.patch then some (.leadingZero "patch" s)
  else
    ((preReleaseFault? (identifiers p.preRelease)).or
      (buildFault? (identifiers p.build))).map .identifier

/-- The version that sound parts write. -/
def Parts.toVersion (p : Parts) : Version where
  major := Text.decimalValue p.major
  minor := Text.decimalValue p.minor
  patch := Text.decimalValue p.patch
  preRelease := identifiers p.preRelease
  build := identifiers p.build

/-- Reads a version without blanks around it and without a letter in front. -/
def ofBareText (s : Text) : Except VersionError Version :=
  if s.isEmpty then .error .empty
  else
    match parts? s with
    | none => .error (.malformed s)
    | some p =>
      match p.fault? s with
      | some e => .error e
      | none => .ok p.toVersion

/-- Reads a version. -/
def ofText (s : Text) : Except VersionError Version :=
  ofBareText (Text.dropLetter (Text.strip s))

end Version

end SemverRange
