import LocaleGen.Text.Numeral

/-!
# Templates

A `Template` is fixed text with gaps in it, each of which is followed by fixed text. `fill` puts
pieces of source text into the gaps, and `read` reads from a text that starts so what the pieces
stand for.

A `Lexis` has the rules of a language for what stands in a gap: a name, a literal, a number or a
truth value. `readMany` reads what is repeated as long as its first words are there.
-/

namespace LocaleGen

/-! ## Gaps -/

/-- What kind of source text stands in a gap. -/
inductive Kind where
  | name
  | literal
  | whole
  | flag
  deriving DecidableEq

/-- What a gap stands for. -/
inductive Field where
  | name (t : Text)
  | literal (t : Text)
  | whole (i : Int)
  | flag (b : Bool)
  deriving DecidableEq

/-- The rules of a language for what stands in a gap. -/
structure Lexis where
  source : Text → Option Text
  isNamePart : CodePoint → Bool
  readLiteral : Text → Option (Text × Text)
  yes : Text
  no : Text

namespace Lexis

variable (l : Lexis)

def readName (t : Text) : Option (Text × Text) :=
  let name := t.takeWhile l.isNamePart
  if name = [] then none else some (name, t.dropWhile l.isNamePart)

def readFlag (t : Text) : Option (Bool × Text) :=
  match Text.dropStart? t l.yes with
  | some left => some (true, left)
  | none => (Text.dropStart? t l.no).map fun left => (false, left)

end Lexis

def readNat (t : Text) : Option (Nat × Text) :=
  (Text.toNat? (t.takeWhile CodePoint.isDigit)).map fun n => (n, t.dropWhile CodePoint.isDigit)

def readInt (t : Text) : Option (Int × Text) :=
  match Text.dropStart? t "-" with
  | some digits => (readNat digits).map fun (n, left) => (-(n : Int), left)
  | none => (readNat t).map fun (n, left) => ((n : Int), left)

namespace Lexis

variable (l : Lexis)

/-- What the gap that a text starts with stands for, and what follows it. -/
def readField (kind : Kind) (t : Text) : Option (Field × Text) :=
  match kind with
  | .name => (l.readName t).map fun (name, left) => (.name name, left)
  | .literal => (l.readLiteral t).map fun (value, left) => (.literal value, left)
  | .whole => (readInt t).map fun (i, left) => (.whole i, left)
  | .flag => (l.readFlag t).map fun (b, left) => (.flag b, left)

def readGaps (gaps : List (Kind × Text)) (t : Text) : Option (List Field × Text) :=
  match gaps with
  | [] => some ([], t)
  | (kind, after) :: gaps => do
    let (field, left) ← l.readField kind t
    let (fields, left) ← readGaps gaps (← Text.dropStart? left after)
    some (field :: fields, left)

end Lexis

/-! ## Templates -/

def line (words : String) : Text := Text.ofString words ++ "\n"

structure Template where
  opening : Text
  gaps : List (Kind × Text)

namespace Template

def fillGaps (gaps : List (Kind × Text)) (pieces : List Text) : Text :=
  match gaps, pieces with
  | (_, after) :: gaps, piece :: pieces => piece ++ (after ++ fillGaps gaps pieces)
  | _, _ => []

def fill (template : Template) (pieces : List Text) : Text :=
  template.opening ++ fillGaps template.gaps pieces

def read (template : Template) (l : Lexis) (t : Text) : Option (List Field × Text) := do
  l.readGaps template.gaps (← Text.dropStart? t template.opening)

end Template

/-! ## Repetition -/

/-- The items that a text starts with, each of which has the given first words, and what follows
them. -/
def readMany {α : Type} (opening : Text) (item : Text → Option (α × Text)) (fuel : Nat) (t : Text) :
    Option (List α × Text) :=
  match fuel with
  | 0 => none
  | fuel + 1 =>
    if (Text.dropStart? t opening).isSome then do
      let (x, left) ← item t
      let (xs, left) ← readMany opening item fuel left
      some (x :: xs, left)
    else some ([], t)

end LocaleGen
