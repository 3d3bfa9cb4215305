/-
SemverRange/Text/Quoted.lean

Quoted texts, as messages show them.  The quotes are apostrophes, unless the
text holds an apostrophe and no double quote.  Inside, a backslash stands
before a backslash and before the quote in use; tab, line feed and carriage
return have letters; any other character without a visible form is written by
its code point in two, four or eight hexadecimal digits.
-/
import SemverRange.Text.Printable

namespace SemverRange.Text

/-- The quote in use unless the text calls for the other. -/
def apostrophe : Char := '\x27'

/-- The quote for a text that holds an apostrophe. -/
def doubleQuote : Char := '\x22'

/-- The character that opens an escape. -/
def backslash : Char := '\x5c'

/-- The quote that encloses a text. -/
def quoteFor (s : Text) : Char :=
  if s.contains apostrophe && !s.contains doubleQuote then doubleQuote else apostrophe

/-- An escape by code point: two digits up to U+00FF, four up to U+FFFF, and
eight beyond. -/
def escapeCode (n : Nat) : Text :=
  let digits := Nat.toDigits 16 n
  if n < 0x100 then backslash :: 'x' :: digits.leftpad 2 '0'
  else if n < 0x10000 then backslash :: 'u' :: digits.leftpad 4 '0'
  else backslash :: 'U' :: digits.leftpad 8 '0'

/-- How one character is written between quotes of the kind `quote`. -/
def escape (quote c : Char) : Text :=
  if c = quote || c = backslash then [backslash, c]
  else if c = '\t' then [backslash, 't']
  else if c = '\n' then [backslash, 'n']
  else if c = '\r' then [backslash, 'r']
  else if isPrintable c then [c]
  else escapeCode c.toNat

/-- The quoted form of a text. -/
def quoted (s : Text) : Text :=
  let quote := quoteFor s
  quote :: s.flatMap (escape quote) ++ [quote]

end SemverRange.Text
