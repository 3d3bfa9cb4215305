/-
SemverRange/Text/Numeral.lean

Integers written in full: a sign if wanted, decimal digits of any script, and
single underscores between digits, with blanks allowed around the whole.  The
four ASCII separators do not count as blanks here.
-/
import SemverRange.Text.Blank
import SemverRange.Text.Digit
import SemverRange.Text.Quoted

namespace SemverRange.Text.Numeral

/-- Blank characters that may surround a numeral. -/
def isMargin (c : Char) : Bool :=
  isBlank c && !inRanges [(0x1C, 0x1F)] c

/-- Continues a number after one of its digits; `n` is the value so far. -/
def readDigits (n : Nat) : Text → Option Nat
  | [] => some n
  | '_' :: c :: s =>
    match digit? c with
    | some d => readDigits (10 * n + d) s
    | none => none
  | c :: s =>
    match digit? c with
    | some d => readDigits (10 * n + d) s
    | none => none

/-- Reads a number without a sign. -/
def readUnsigned : Text → Option Nat
  | [] => none
  | c :: s =>
    match digit? c with
    | some d => readDigits d s
    | none => none

/-- Reads an integer, or answers `none` if the text does not write one.  There is
no limit to its digits: a runtime that converts numerals may be set to refuse
long ones (those of more than 4300 digits unless told otherwise), and that
setting is assumed to be off. -/
def read? (s : Text) : Option Int :=
  match trim isMargin s with
  | '-' :: t => (readUnsigned t).map fun n => -(n : Int)
  | '+' :: t => (readUnsigned t).map Int.ofNat
  | t => (readUnsigned t).map Int.ofNat

/-- Says that a text is no integer.  At most 200 characters of its quoted form
are shown. -/
def refusal (s : Text) : String :=
  "invalid literal for int() with base 10: " ++ String.ofList ((quoted s).take 200)

end SemverRange.Text.Numeral
