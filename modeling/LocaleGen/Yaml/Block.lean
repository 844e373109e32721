import LocaleGen.Yaml.Cursor

/-!
# Block scalars

A block scalar is a header and the lines below it that are indented. In a literal one the breaks
stay, in a folded one a single break between lines that start with a word counts as a space. The
header may give the indentation and say what happens to the breaks at the end.
-/

namespace LocaleGen.Yaml.Block

/-- What happens to the breaks at the end. -/
inductive Chomping where
  | clip
  | strip
  | keep
  deriving DecidableEq

def chomping? (c : Option CodePoint) : Option Chomping :=
  if c = some (CodePoint.ofChar '+') then some .keep
  else if c = some (CodePoint.ofChar '-') then some .strip
  else none

def indentation? (c : Option CodePoint) : Option Nat :=
  match c with
  | some c => if c.isDigit then some (c.val - 0x30) else none
  | none => none

/-- The chomping and the indentation in a header, in either order. -/
def readHeader (c : Cursor) : Except Problem (Chomping × Option Nat × Cursor) := do
  let (chomping, c) : Chomping × Cursor :=
    match chomping? (c.peek? 0) with
    | some k => (k, c.next)
    | none => (.clip, c)
  let (indentation, c) : Option Nat × Cursor :=
    match indentation? (c.peek? 0) with
    | some n => (some n, c.next)
    | none => (none, c)
  if indentation = some 0 then
    c.fail "expected indentation indicator in the range 1-9, but found 0"
  else
    let (chomping, c) : Chomping × Cursor :=
      match chomping, indentation, chomping? (c.peek? 0) with
      | .clip, some _, some k => (k, c.next)
      | _, _, _ => (chomping, c)
    if endsPart (c.peek? 0) then .ok (chomping, indentation, c)
    else c.fail "expected chomping or indentation indicators"

def skipLine (c : Cursor) : Except Problem Cursor :=
  let c := c.skipSpaces.skipComment
  if endsLine (c.peek? 0) then .ok c.next else c.fail "expected a comment or a line break"

/-- The breaks before the first line with a word, and how far the lines reach. -/
def readLeading (fuel : Nat) (c : Cursor) : Text × Nat × Cursor :=
  match fuel, c.peek? 0 with
  | 0, _ | _, none => ([], 0, c)
  | fuel + 1, some x =>
    if x.val = 0x20 then
      let (breaks, reach, left) := readLeading fuel c.next
      (breaks, max reach c.next.column, left)
    else if isBreak x then
      let (breaks, reach, left) := readLeading fuel c.next
      (breakText x :: breaks, reach, left)
    else ([], 0, c)

/-- The place after as many spaces as the indentation asks for. -/
def skipIndentation (fuel indent : Nat) (c : Cursor) : Cursor :=
  match fuel with
  | 0 => c
  | fuel + 1 =>
    if c.column < indent ∧ c.sees (fun x => x.val = 0x20) then skipIndentation fuel indent c.next
    else c

/-- The breaks of empty lines. -/
def readBreaks (fuel indent : Nat) (c : Cursor) : Text × Cursor :=
  let c := skipIndentation indent indent c
  match fuel, c.peek? 0 with
  | 0, _ | _, none => ([], c)
  | fuel + 1, some x =>
    if isBreak x then
      let (breaks, left) := readBreaks fuel indent c.next
      (breakText x :: breaks, left)
    else ([], c)

def goesOn (indent : Nat) (c : Cursor) : Bool := c.column = indent && !c.rest.isEmpty

def joint (folded : Bool) (lineBreak breaks : Text) (startsWithWord : Bool) (c : Cursor) : Text :=
  if folded && lineBreak = Text.ofString "\n" && startsWithWord && !c.sees isBlank then
    (if breaks = [] then " " else [])
  else lineBreak

/-- The lines from one that has a word: their content, and the breaks at the end. -/
def readLines (folded : Bool) (indent fuel : Nat) (breaks : Text) (c : Cursor) :
    Text × Text × Text × Cursor :=
  match fuel with
  | 0 => ([], [], breaks, c)
  | fuel + 1 =>
    if !goesOn indent c then ([], [], breaks, c)
    else
      let startsWithWord := !c.sees isBlank
      let (line, c) := c.takeWhile fun x => !isBreak x
      let lineBreak : Text := ((c.peek? 0).map breakText).toList
      let (after, c) := readBreaks c.rest.length indent c.next
      let content := breaks ++ line
      if goesOn indent c then
        let (more, final, trailing, left) := readLines folded indent fuel after c
        (content ++ joint folded lineBreak after startsWithWord c ++ more, final, trailing, left)
      else (content, lineBreak, after, c)

/-- The block scalar whose header starts at the cursor, inside a block that is indented by
`outer`. -/
def read (folded : Bool) (outer : Int) (c : Cursor) : Except Problem (Text × Cursor) := do
  let (chomping, indentation, c) ← readHeader c.next
  let c ← skipLine c
  let least := max 1 (outer + 1).toNat
  let (indent, breaks, c) : Nat × Text × Cursor :=
    match indentation with
    | some n =>
      let indent := least + n - 1
      let (breaks, c) := readBreaks c.rest.length indent c
      (indent, breaks, c)
    | none =>
      let (breaks, reach, c) := readLeading c.rest.length c
      (max least reach, breaks, c)
  let (content, final, trailing, c) := readLines folded indent c.rest.length breaks c
  match chomping with
  | .strip => .ok (content, c)
  | .clip => .ok (content ++ final, c)
  | .keep => .ok (content ++ final ++ trailing, c)

end LocaleGen.Yaml.Block
