import LocaleGen.Text.Numeral
import LocaleGen.Unicode.Basic
import LocaleGen.Unicode.UnprintableTable

/-!
# Quoted display

`quoted` shows a text between quotes so that every character of it can be told: single quotes unless
the text holds a single quote and no double one, short escapes for the backslash, tab and line ends,
and the number of every other character without a shape of its own.
-/

namespace LocaleGen

/-- A character with a shape of its own, or the plain space. -/
def CodePoint.isPrintable (c : CodePoint) : Bool := !Unicode.inRanges Unicode.unprintable c.val

namespace Text

/-- A character by its number: two, four or eight hexadecimal digits. -/
def numbered (c : CodePoint) : Text :=
  if c.val < 0x100 then "\\x" ++ hex 2 c.val
  else if c.val < 0x10000 then "\\u" ++ hex 4 c.val
  else "\\U" ++ hex 8 c.val

/-- One character inside quotes of the given kind. -/
def quotedChar (quote c : CodePoint) : Text :=
  if c = quote || c = '\\' then ['\\', c]
  else if c = '\n' then "\\n"
  else if c = '\r' then "\\r"
  else if c = '\t' then "\\t"
  else if c.isPrintable then [c]
  else numbered c

/-- The quote that shows a text: the double one if the text holds single quotes only. -/
def quoteOf (t : Text) : CodePoint :=
  if (CodePoint.ofChar '\'') ∈ t ∧ (CodePoint.ofChar '"') ∉ t then '"' else '\''

def quoted (t : Text) : Text :=
  quoteOf t :: (t.flatMap (quotedChar (quoteOf t)) ++ [quoteOf t])

end Text

end LocaleGen
