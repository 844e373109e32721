import LocaleGen.Text.Basic

/-!
# Properties of code points

A set of code points is kept as ascending, separate, inclusive ranges. `Unicode.inRanges` looks a
number up and stops at the first range above it.
-/

namespace LocaleGen

namespace Unicode

def inRanges (ranges : List (Nat × Nat)) (n : Nat) : Bool :=
  match ranges with
  | [] => false
  | (lo, hi) :: rest => lo ≤ n && (n ≤ hi || inRanges rest n)

end Unicode

/-! ## Decimal digits

The digits of every script. Each script has ten of them in a row, from zero to nine, so
`decimalZeros` lists only the zeros; they are those of Unicode 14.0.
-/

namespace Unicode

def decimalZeros : List Nat :=
  [0x0030, 0x0660, 0x06F0, 0x07C0, 0x0966, 0x09E6, 0x0A66, 0x0AE6, 0x0B66, 0x0BE6, 0x0C66,
    0x0CE6, 0x0D66,
   0x0DE6, 0x0E50, 0x0ED0, 0x0F20, 0x1040, 0x1090, 0x17E0, 0x1810, 0x1946, 0x19D0, 0x1A80,
     0x1A90, 0x1B50,
   0x1BB0, 0x1C40, 0x1C50, 0xA620, 0xA8D0, 0xA900, 0xA9D0, 0xA9F0, 0xAA50, 0xABF0, 0xFF10,
     0x104A0, 0x10D30,
   0x11066, 0x110F0, 0x11136, 0x111D0, 0x112F0, 0x11450, 0x114D0, 0x11650, 0x116C0,
     0x11730, 0x118E0,
   0x11950, 0x11C50, 0x11D50, 0x11DA0, 0x16A60, 0x16AC0, 0x16B50, 0x1D7CE, 0x1D7D8,
     0x1D7E2, 0x1D7EC,
   0x1D7F6, 0x1E140, 0x1E2F0, 0x1E950, 0x1FBF0]

end Unicode

namespace CodePoint

def decimalValue? (c : CodePoint) : Option Nat :=
  (Unicode.decimalZeros.find? fun first => first ≤ c.val && c.val ≤ first + 9).map (c.val - ·)

def isDecimal (c : CodePoint) : Bool := c.decimalValue?.isSome

end CodePoint

/-! ## White space

`CodePoint.isBlank` is the white space that blank tests and line stripping know: the property
`White_Space` and the four information separators U+001C to U+001F. Neither the zero-width space nor
the byte order mark is blank. `CodePoint.isSpace` is the property `White_Space` alone, which
surrounds the numbers in settings.
-/

namespace Unicode

def whiteSpace : List (Nat × Nat) :=
  [(0x09, 0x0D), (0x20, 0x20), (0x85, 0x85), (0xA0, 0xA0), (0x1680, 0x1680), (0x2000, 0x200A),
   (0x2028, 0x2029), (0x202F, 0x202F), (0x205F, 0x205F), (0x3000, 0x3000)]

end Unicode

namespace CodePoint

def isSpace (c : CodePoint) : Bool := Unicode.inRanges Unicode.whiteSpace c.val

def isBlank (c : CodePoint) : Bool := c.isSpace || (0x1C ≤ c.val && c.val ≤ 0x1F)

end CodePoint

namespace Text

/-- Nothing but white space, or nothing at all. -/
def isBlank (t : Text) : Bool := t.all CodePoint.isBlank

def strip (t : Text) : Text := t.trim CodePoint.isBlank

end Text

end LocaleGen
