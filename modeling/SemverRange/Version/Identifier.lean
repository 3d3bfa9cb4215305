/-
SemverRange/Version/Identifier.lean

Identifiers: the pieces between dots in the pre-release and in the build
metadata of a version.

An identifier of decimal digits only is a number.  Numbers come below all
other identifiers and are ordered by value; the others are ordered character
by character.  A list of identifiers is ordered lexicographically, so that a
list comes below its extensions.
-/
import SemverRange.Text.Digit

namespace SemverRange

/-- One piece of a pre-release or of build metadata. -/
abbrev Identifier := Text

namespace Identifier

/-- Whether an identifier is a number. -/
def isNumeric (i : Identifier) : Bool :=
  !i.isEmpty && i.all Text.isDigit

/-- Whether a number has a zero in front that could be left out. -/
def hasLeadingZero (i : Identifier) : Bool :=
  isNumeric i && i.head? == some '0' && i != ['0']

/-- Whether an identifier has a place in the order: it is a number, or it
keeps to ASCII. -/
def isOrdered (i : Identifier) : Bool :=
  isNumeric i || i.all (·.toNat < 128)

/-- Precedence of two identifiers. -/
def precedence (a b : Identifier) : Ordering :=
  if isNumeric a then
    if isNumeric b then compare (Text.decimalValue a) (Text.decimalValue b) else .lt
  else
    if isNumeric b then .gt else List.compareLex compare a b

end Identifier

/-- What is wrong with a list of identifiers. -/
inductive IdentifierFault where
  /-- One of the identifiers in the list is empty. -/
  | empty (identifiers : List Identifier)
  /-- A number has a zero in front. -/
  | leadingZero (identifier : Identifier)
  deriving DecidableEq, Repr

/-- The first fault among the identifiers of a pre-release. -/
def preReleaseFault? (ids : List Identifier) : Option IdentifierFault :=
  ids.findSome? fun i =>
    if i.isEmpty then some (.empty ids)
    else if Identifier.hasLeadingZero i then some (.leadingZero i)
    else none

/-- The first fault among the identifiers of build metadata, where numbers may
have zeros in front. -/
def buildFault? (ids : List Identifier) : Option IdentifierFault :=
  ids.findSome? fun i => if i.isEmpty then some (.empty ids) else none

end SemverRange
