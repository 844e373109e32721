import LocaleGen.Cause

/-!
# Escaping

A table of escapes makes a text fit between two delimiters. `EscapeRules.escape` applies the
replacements of the table one after the other, each to the whole text, then writes the encoded
characters by their number, and refuses the result if a forbidden character is left.

The backslash is replaced first, so the backslashes that the other replacements bring in stay
single; the type leaves no room for a table that starts otherwise.
-/

namespace LocaleGen

namespace Text

/-- The text with every occurrence of a nonempty `old` replaced, from the left and without overlap;
`skip` code points belong to the last occurrence. -/
def replaceFrom (old new : Text) (skip : Nat) (t : Text) : Text :=
  match t with
  | [] => []
  | c :: rest =>
    match skip with
    | skip + 1 => replaceFrom old new skip rest
    | 0 =>
      if old.isPrefixOf (c :: rest) then new ++ replaceFrom old new (old.length - 1) rest
      else c :: replaceFrom old new 0 rest

/-- The text with every occurrence of `old` replaced. The empty text occurs in every gap and at both
ends. -/
def replaceAll (old new t : Text) : Text :=
  if old = [] then new ++ t.flatMap fun c => c :: new else replaceFrom old new 0 t

end Text

abbrev CodePoint.Ranges := List (Nat × Nat)

def CodePoint.within (c : CodePoint) (ranges : CodePoint.Ranges) : Bool :=
  ranges.any fun r => r.1 ≤ c.val && c.val ≤ r.2

/-- A table of escapes. -/
structure EscapeRules where
  /-- What opens and closes a literal. -/
  delimiter : Text
  backslash : Text
  others : List (Text × Text)
  forbidden : CodePoint.Ranges
  encoded : CodePoint.Ranges

namespace EscapeRules

def lineEnds : CodePoint.Ranges := [(0x0A, 0x0A), (0x0D, 0x0D)]

def surrogates : CodePoint.Ranges := [(0xD800, 0xDFFF)]

def table (rules : EscapeRules) : List (Text × Text) := ("\\", rules.backslash) :: rules.others

/-- The rules with the given replacements, the first of which has to be that of the backslash. -/
def ofTable? (delimiter : Text) (table : List (Text × Text))
    (forbidden encoded : CodePoint.Ranges) : Option EscapeRules :=
  match table with
  | [] => none
  | (old, new) :: others =>
    if old = "\\" then some ⟨delimiter, new, others, forbidden, encoded⟩ else none

def replaced (rules : EscapeRules) : List Text := rules.table.map Prod.fst

/-- A character by its number: four hexadecimal digits, more only if it needs them. -/
def encodeChar (c : CodePoint) : Text := "\\u" ++ Text.hex 4 c.val

def applyTable (table : List (Text × Text)) (t : Text) : Text :=
  table.foldl (fun t entry => Text.replaceAll entry.1 entry.2 t) t

def applyEncoding (encoded : CodePoint.Ranges) (t : Text) : Text :=
  t.flatMap fun c => if c.within encoded then encodeChar c else [c]

/-- The text itself unless it holds a forbidden character; the first one is reported. -/
def refuseForbidden (forbidden : CodePoint.Ranges) (t : Text) : Except Cause Text :=
  match t.dropWhile fun c => !c.within forbidden with
  | [] => .ok t
  | c :: _ => .error (.unembeddable c (t.takeWhile fun c => !c.within forbidden).length)

def escape (rules : EscapeRules) (raw : Text) : Except Cause Text :=
  refuseForbidden rules.forbidden (applyEncoding rules.encoded (applyTable rules.table raw))

def literal (rules : EscapeRules) (raw : Text) : Except Cause Text := do
  .ok (rules.delimiter ++ (← rules.escape raw) ++ rules.delimiter)

end EscapeRules

end LocaleGen
