import LocaleGen.Text.Unescape

/-!
# Reading Python string literals

A literal is a few letters, a quote of one or three marks, a body and the quote again. `readQuoted`
finds its parts, and `evaluate` gives the value of a source text that is one literal of text.

A backslash protects the character after it, in every literal, so that neither ends the body; in a
raw literal both stay. Source text holds neither NUL nor surrogates, and CR LF and CR in it are line
feeds.
-/

namespace LocaleGen.Python

def isSource (t : Text) : Bool := t.all fun c => c.val ≠ 0 && !c.isSurrogate

/-! ## The parts of a literal -/

/-- What the letters in front of a literal say of it. -/
structure Flags where
  raw : Bool
  bytes : Bool
  format : Bool
  deriving DecidableEq

/-- The letters that may stand in front of a literal, in lower case. -/
def prefixes : List (Text × Flags) :=
  [("", ⟨false, false, false⟩), ("u", ⟨false, false, false⟩), ("r", ⟨true, false, false⟩),
   ("b", ⟨false, true, false⟩), ("br", ⟨true, true, false⟩), ("rb", ⟨true, true, false⟩),
   ("f", ⟨false, false, true⟩), ("fr", ⟨true, false, true⟩), ("rf", ⟨true, false, true⟩)]

def isPrefixLetter (c : CodePoint) : Bool :=
  let c := c.asciiLower
  c = CodePoint.ofChar 'r' || c = CodePoint.ofChar 'b' || c = CodePoint.ofChar 'u' || c =
    CodePoint.ofChar 'f'

/-- The quote that a text starts with, and what follows it. -/
def quote? (t : Text) : Option (Text × Text) :=
  match t with
  | [] => none
  | c :: rest =>
    if c = '\'' || c = '"' then
      match Text.dropStart? rest [c, c] with
      | some left => some ([c, c, c], left)
      | none => some ([c], rest)
    else none

/-- A literal as it is written. -/
structure Quoted where
  flags : Flags
  body : Text
  deriving DecidableEq

def endsShort (quote : Text) (c : CodePoint) : Bool := c = CodePoint.ofChar '\n' && quote.length = 1

def readQuoted (t : Text) : Option (Quoted × Text) := do
  let letters := t.takeWhile isPrefixLetter
  let flags ← prefixes.lookup (letters.map CodePoint.asciiLower)
  let (quote, rest) ← quote? (t.dropWhile isPrefixLetter)
  let (body, left) ← Text.scanBody quote (endsShort quote) rest
  some (⟨flags, body⟩, left)

/-! ## Escapes -/

/-- The character that a letter after a backslash stands for. -/
def escapeLetter? (c : CodePoint) : Option CodePoint :=
  if c = '\\' || c = '\'' || c = '"' then some c
  else if c = 'a' then some '\x07'
  else if c = 'b' then some '\x08'
  else if c = 'f' then some '\x0c'
  else if c = 'n' then some '\n'
  else if c = 'r' then some '\r'
  else if c = 't' then some '\t'
  else if c = 'v' then some '\x0b'
  else none

/-- How many hexadecimal digits follow a letter after a backslash. -/
def hexWidth? (c : CodePoint) : Option Nat :=
  if c = 'x' then some 2 else if c = 'u' then some 4 else if c = 'U' then some 8 else none

def isOctal (c : CodePoint) : Bool := 0x30 ≤ c.val && c.val ≤ 0x37

/-- What an escape stands for, and what follows it. The text starts after the backslash. A letter
that is no escape leaves the backslash in place; a character by its name is not read. -/
def readEscape (t : Text) : Option (Text × Text) :=
  match t with
  | [] => some (['\\'], [])
  | c :: rest =>
    match escapeLetter? c, hexWidth? c with
    | some e, _ => some ([e], rest)
    | none, some width => (Text.hexPoint? width rest).map fun (e, left) => ([e], left)
    | none, none =>
      if c = '\n' then some ([], rest)
      else if c = 'N' then none
      else if isOctal c then
        let ds := (t.take 3).takeWhile isOctal
        some ([.ofNat (Text.ofDigits 8 (ds.map (·.val - 0x30)))], t.drop ds.length)
      else some (['\\', c], rest)

/-! ## Values -/

def Quoted.text? (q : Quoted) : Option Text :=
  if q.flags.bytes || q.flags.format then none
  else if q.flags.raw then some q.body
  else Text.unescape readEscape q.body

def readText (t : Text) : Option (Text × Text) := do
  let (q, left) ← readQuoted t
  some (← q.text?, left)

def evaluate (source : Text) : Option Text :=
  if isSource source then
    match readText source.normalizeNewlines with
    | some (value, []) => some value
    | _ => none
  else none

end LocaleGen.Python
