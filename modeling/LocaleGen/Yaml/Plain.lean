import LocaleGen.Yaml.Cursor

/-!
# Plain scalars

A plain scalar runs until a blank, a break, or a colon that ends a key; inside brackets the brackets
and commas end it too. It may go on after blanks and breaks as long as the lines are indented far
enough.
-/

namespace LocaleGen.Yaml.Plain

def isBracket (c : CodePoint) : Bool := c ∈ Text.ofString r",[]{}"

def endsKey (inFlow : Bool) (after : Option CodePoint) : Bool :=
  endsWord after || (inFlow && endsOr isBracket after)

/-- The beginning of a text without blanks that belongs to a plain scalar. -/
def run (inFlow : Bool) (t : Text) : Text :=
  match t with
  | [] => []
  | c :: rest =>
    if isBlank c || isBreak c || (c = ':' && endsKey inFlow rest.head?) ||
        (inFlow && (isBracket c || c = '?')) then []
    else c :: run inFlow rest

/-- The breaks and spaces after a break: the breaks and what is left, or only what is left where a
document ends. -/
def readBreaks (fuel : Nat) (t : Text) : Option Text × Text :=
  match fuel, t with
  | 0, _ | _, [] => (some [], t)
  | fuel + 1, c :: rest =>
    if c.val = 0x20 then readBreaks fuel rest
    else if isBreak c then
      if startsSeparator rest then (none, rest)
      else
        let (breaks, left) := readBreaks fuel rest
        (breaks.map (breakText c :: ·), left)
    else (some [], c :: rest)

/-- What stands between two runs. -/
structure Gap where
  content : Text
  left : Text
  crossesLine : Bool

/-- The gap after a run. -/
def readGap (t : Text) : Gap :=
  let spaces := t.takeWhile fun c => c.val = 0x20
  match t.dropWhile fun c => c.val = 0x20 with
  | [] => ⟨spaces, [], false⟩
  | c :: rest =>
    if !isBreak c then ⟨spaces, c :: rest, false⟩
    else if startsSeparator rest then ⟨[], rest, true⟩
    else
      match readBreaks rest.length rest with
      | (none, left) => ⟨[], left, true⟩
      | (some breaks, left) =>
        let first : Text :=
          if breakText c ≠ CodePoint.ofChar '\n' then [c] else if breaks = [] then " " else []
        ⟨first ++ breaks, left, true⟩

/-- A plain scalar that has been read. -/
structure Result where
  content : Text
  cursor : Cursor
  allowsKey : Bool

/-- Reads on after the gap `gap`. Lines must be indented by `indent` unless the scalar is inside
brackets. -/
def readFrom (inFlow : Bool) (indent : Int) (fuel : Nat) (content gap : Text) (c : Cursor)
    (allowsKey : Bool) : Result :=
  match fuel with
  | 0 => ⟨content, c, allowsKey⟩
  | fuel + 1 =>
    let run := if c.sees (· = CodePoint.ofChar '#') then [] else run inFlow c.rest
    if run = [] then ⟨content, c, allowsKey⟩
    else
      let content := content ++ gap ++ run
      let c := c.skip run.length
      let g := readGap c.rest
      let c := c.seek g.left
      if g.content = [] ∨ c.sees (· = CodePoint.ofChar '#') ∨
        (!inFlow ∧ (c.column : Int) < indent) then
        ⟨content, c, g.crossesLine⟩
      else readFrom inFlow indent fuel content g.content c g.crossesLine

def read (inFlow : Bool) (indent : Int) (c : Cursor) : Result :=
  readFrom inFlow indent c.rest.length [] [] c false

end LocaleGen.Yaml.Plain
