import LocaleGen.Yaml.Cursor

/-!
# Quoted scalars

The content of a scalar in quotes. A break between two words counts as a space, and empty lines
after it as breaks. Between single quotes a quote is written twice; between double quotes a
backslash starts an escape.
-/

namespace LocaleGen.Yaml.Quoted

def escapes : List (Char × Nat) :=
  [('0', 0x00), ('a', 0x07), ('b', 0x08), ('t', 0x09), ('\t', 0x09), ('n', 0x0A), ('v', 0x0B),
    ('f', 0x0C),
   ('r', 0x0D), ('e', 0x1B), (' ', 0x20), ('"', 0x22), ('\\', 0x5C), ('/', 0x2F), ('N', 0x85),
     ('_', 0xA0),
   ('L', 0x2028), ('P', 0x2029)]

def digitCount? (c : CodePoint) : Option Nat :=
  if c = 'x' then some 2 else if c = 'u' then some 4 else if c = 'U' then some 8 else none

def escape? (c : CodePoint) : Option CodePoint :=
  (escapes.find? fun e => c = CodePoint.ofChar e.1).map fun e => .ofNat e.2

abbrev Piece := Except (Option Fault × Text) (Text × Text)

def refuse (detail : Text) : Piece := .error (none, detail)

def numbered (n : Nat) : Except (Option Fault × Text) CodePoint :=
  if h : n < 0x110000 then .ok ⟨n, h⟩
  else if n < 0x80000000 then .error (some (.value "chr() arg not in range(0x110000)"), [])
  else .error (some (.overflow "Python int too large to convert to C int"), [])

/-- The breaks after a break, the blanks around them being dropped. -/
def readBreaks (fuel : Nat) (t : Text) : Piece :=
  match fuel with
  | 0 => .ok ([], t)
  | fuel + 1 =>
    if startsSeparator t then refuse "found unexpected document separator"
    else
      match t.dropWhile isBlank with
      | c :: rest =>
        if isBreak c then do
          let (breaks, left) ← readBreaks fuel rest
          .ok (breakText c :: breaks, left)
        else .ok ([], c :: rest)
      | [] => .ok ([], [])

/-- What blanks and breaks between words count as. -/
def readGap (t : Text) : Piece :=
  let blanks := t.takeWhile isBlank
  match t.dropWhile isBlank with
  | [] => refuse "found unexpected end of stream"
  | c :: rest =>
    if isBreak c then do
      let (breaks, left) ← readBreaks rest.length rest
      let first : Text :=
        if breakText c ≠ CodePoint.ofChar '\n' then [c] else if breaks = [] then " " else []
      .ok (first ++ breaks, left)
    else .ok (blanks, c :: rest)

/-- What follows a backslash. -/
def readEscape (t : Text) : Piece :=
  match t with
  | [] => refuse "found unknown escape character"
  | c :: rest =>
    match escape? c, digitCount? c with
    | some d, _ => .ok ([d], rest)
    | none, some count =>
      match Text.hexNat? (rest.take count) with
      | some n =>
        if (rest.take count).length = count then do
          .ok ([← numbered n], rest.drop count)
        else refuse "expected escape sequence of hexadecimal numbers"
      | none => refuse "expected escape sequence of hexadecimal numbers"
    | none, none =>
      if isBreak c then readBreaks rest.length rest else refuse "found unknown escape character"

def quote (double : Bool) : CodePoint := CodePoint.ofChar (if double then '"' else '\'')

/-- The next part of the content, or nothing if the closing quote stands here, and what is left. -/
def readPart (double : Bool) (t : Text) : Except (Option Fault × Text) (Option Text × Text) :=
  let part (r : Piece) : Except (Option Fault × Text) (Option Text × Text) :=
    r.map fun (content, left) => (some content, left)
  match t with
  | [] => part (refuse "found unexpected end of stream")
  | c :: rest =>
    if isBlank c || isBreak c then part (readGap (c :: rest))
    else if c = quote double then
      if !double && rest.head? = some c then part (.ok ([c], rest.tail)) else .ok (none, rest)
    else if double && c = '\\' then part (readEscape rest)
    else part (.ok ([c], rest))

/-- The content up to the closing quote, and what is left after that. -/
def readContent (double : Bool) (fuel : Nat) (t : Text) : Piece :=
  match fuel with
  | 0 => refuse "found unexpected end of stream"
  | fuel + 1 => do
    match ← readPart double t with
    | (none, left) => .ok ([], left)
    | (some part, left) =>
      let (more, left) ← readContent double fuel left
      .ok (part ++ more, left)

/-- The scalar whose opening quote is at the cursor, and the place after its closing quote. -/
def read (double : Bool) (c : Cursor) : Except Problem (Text × Cursor) :=
  match readContent double c.rest.length c.next.rest with
  | .ok (content, left) => .ok (content, c.seek left)
  | .error (some f, _) => .error (.meaningless f)
  | .error (none, detail) => c.fail detail

end LocaleGen.Yaml.Quoted
