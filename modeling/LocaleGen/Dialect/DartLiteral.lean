import LocaleGen.Dialect.Dart
import LocaleGen.Text.Unescape

/-!
# Reading Dart string literals

`readShort` reads a literal between two double quotes, `readRaw` one between triple quotes after the
letter `r`, and `readLiteral` either.

A short literal ends at the first unprotected quote. Before it neither a dollar sign, which starts
an interpolation, nor a line end is unprotected. In a raw literal a backslash protects nothing; CR
LF and CR in it are line feeds, and a first line of blanks and backslashes is dropped.
-/

namespace LocaleGen.Dart

/-! ## Short literals -/

def endsShort (c : CodePoint) : Bool :=
  c = CodePoint.ofChar '$' || c = CodePoint.ofChar '\n' || c = CodePoint.ofChar '\r'

/-- The character that a letter after a backslash stands for. -/
def escapeLetter? (c : CodePoint) : Option CodePoint :=
  if c = 'n' then some '\n'
  else if c = 'r' then some '\r'
  else if c = 't' then some '\t'
  else if c = 'b' then some '\x08'
  else if c = 'f' then some '\x0c'
  else if c = 'v' then some '\x0b'
  else none

/-- The code point with the number that one to six hexadecimal digits write, and what follows the
closing brace after them. -/
def bracedPoint? (t : Text) : Option (CodePoint × Text) :=
  let digits := t.takeWhile fun c => c.hexValue?.isSome
  match Text.hexNat? digits, t.drop digits.length with
  | some n, c :: left =>
    if c = '}' && digits.length ≤ 6 && n < 0x110000 then some (.ofNat n, left) else none
  | _, _ => none

/-- What an escape stands for, and what follows it. The text starts after the backslash. A character
that no rule is about stands for itself. -/
def readEscape (t : Text) : Option (Text × Text) :=
  match t with
  | [] => none
  | c :: rest =>
    match escapeLetter? c with
    | some e => some ([e], rest)
    | none =>
      if c = 'x' then (Text.hexPoint? 2 rest).map fun (e, left) => ([e], left)
      else if c = 'u' then
        match Text.dropStart? rest r"{" with
        | some digits => (bracedPoint? digits).map fun (e, left) => ([e], left)
        | none => (Text.hexPoint? 4 rest).map fun (e, left) => ([e], left)
      else some ([c], rest)

/-- The value of the short literal that a text starts with, and what follows it. Three quotes start
no short one. -/
def readShort (t : Text) : Option (Text × Text) := do
  let rest ← Text.dropStart? t "\""
  guard (Text.dropStart? rest "\"\"").isNone
  let (body, left) ← Text.scanBody "\"" endsShort rest
  some (← Text.unescape readEscape body, left)

/-! ## Raw literals -/

def scanRaw (t : Text) : Option (Text × Text) :=
  match t with
  | [] => none
  | c :: rest =>
    match Text.dropStart? (c :: rest) tripleQuote with
    | some left => some ([], left)
    | none => (scanRaw rest).map fun (body, left) => (c :: body, left)

def isLineBlank (c : CodePoint) : Bool := c = CodePoint.ofChar ' ' || c = CodePoint.ofChar '\t'

/-- What follows the first line, if that holds only spaces and tabs, each of which a backslash may
stand before. -/
def afterBlankLine? (t : Text) : Option Text :=
  match t with
  | [] => none
  | c :: rest =>
    if c = '\n' then some rest
    else if isLineBlank c then afterBlankLine? rest
    else if c = '\\' then
      match rest with
      | [] => none
      | d :: rest' => if isLineBlank d then afterBlankLine? rest' else none
    else none

def skipDroppedLine (t : Text) : Text := (afterBlankLine? t).getD t

def readRaw (t : Text) : Option (Text × Text) := do
  let rest ← Text.dropStart? t ("r" ++ tripleQuote)
  let (body, left) ← scanRaw rest
  some (skipDroppedLine body.normalizeNewlines, left)

def readLiteral (t : Text) : Option (Text × Text) :=
  if (Text.dropStart? t ("r" ++ tripleQuote)).isSome then readRaw t else readShort t

end LocaleGen.Dart
