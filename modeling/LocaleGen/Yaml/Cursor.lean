import LocaleGen.Fault

/-!
# Reading YAML: characters and places

A `Cursor` is what is left of a text and the place where it starts. Line ends are line feeds and the
three further breaks that YAML knows; the line and the column of a cursor follow from them.
-/

namespace LocaleGen.Yaml

/-! ## Problems -/

/-- Why a text has no value. -/
inductive Problem where
  | malformed (detail : Text) (line column : Nat)
  | meaningless (f : Fault)
  /-- The text breaks off, because the file cannot be read on. -/
  | brokenOff (f : Fault)

def Problem.describe (p : Problem) : Text :=
  match p with
  | malformed detail line column =>
    detail ++ " at line " ++ Text.ofNat (line + 1) ++ ", column " ++ Text.ofNat (column + 1)
  | meaningless f | brokenOff f => f.message

/-! ## Characters -/

def isBreak (c : CodePoint) : Bool :=
  c.val = 0x0A || c.val = 0x85 || c.val = 0x2028 || c.val = 0x2029

def isBlank (c : CodePoint) : Bool := c.val = 0x20 || c.val = 0x09

def breakText (c : CodePoint) : CodePoint := if c.val = 0x85 then '\n' else c

def endsOr (p : CodePoint → Bool) (c : Option CodePoint) : Bool :=
  match c with
  | none => true
  | some c => p c

def endsWord (c : Option CodePoint) : Bool := endsOr (fun c => isBlank c || isBreak c) c

def endsLine (c : Option CodePoint) : Bool := endsOr isBreak c

def endsPart (c : Option CodePoint) : Bool := endsOr (fun c => c.val = 0x20 || isBreak c) c

def isNameChar (c : CodePoint) : Bool := c.isLetter || c.isDigit || c = '-' || c = '_'

def isByteOrderMark (c : CodePoint) : Bool := c.val = 0xFEFF

def isPrintable (c : CodePoint) : Bool :=
  let n := c.val
  n = 0x09 || n = 0x0A || n = 0x0D || (0x20 ≤ n && n ≤ 0x7E) || n =
    0x85 || (0xA0 ≤ n && n ≤ 0xD7FF) ||
    (0xE000 ≤ n && n ≤ 0xFFFD) || 0x10000 ≤ n

def startsSeparator (t : Text) : Bool :=
  (List.isPrefixOf (Text.ofString "---") t || List.isPrefixOf (Text.ofString "...") t) &&
    endsWord t[3]?

/-! ## Places -/

/-- What is left of a text, and where it starts. -/
structure Cursor where
  rest : Text
  index : Nat
  line : Nat
  column : Nat

namespace Cursor

def start (t : Text) : Cursor := ⟨t, 0, 0, 0⟩

/-- The character at the place, or so many characters later. -/
def peek? (c : Cursor) (offset : Nat) : Option CodePoint := c.rest[offset]?

def sees (c : Cursor) (p : CodePoint → Bool) : Bool := (c.rest.head?.map p).getD false

def next (c : Cursor) : Cursor :=
  match c.rest with
  | [] => c
  | x :: rest =>
    if isBreak x then ⟨rest, c.index + 1, c.line + 1, 0⟩
    else if isByteOrderMark x then ⟨rest, c.index + 1, c.line, c.column⟩
    else ⟨rest, c.index + 1, c.line, c.column + 1⟩

/-- The place so many characters later. -/
def skip (n : Nat) (c : Cursor) : Cursor :=
  match n with
  | 0 => c
  | n + 1 => skip n c.next

def seek (c : Cursor) (rest : Text) : Cursor := c.skip (c.rest.length - rest.length)

def takeWhile (c : Cursor) (p : CodePoint → Bool) : Text × Cursor :=
  let taken := c.rest.takeWhile p
  (taken, c.skip taken.length)

def skipSpaces (c : Cursor) : Cursor := (c.takeWhile fun x => x.val = 0x20).2

def skipComment (c : Cursor) : Cursor :=
  if c.sees (· = CodePoint.ofChar '#') then (c.takeWhile fun x => !isBreak x).2 else c

def fail {α : Type} (c : Cursor) (detail : Text) : Except Problem α :=
  .error (.malformed detail c.line c.column)

end Cursor

end LocaleGen.Yaml
