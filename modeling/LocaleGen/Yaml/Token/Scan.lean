import LocaleGen.Yaml.Block
import LocaleGen.Yaml.Plain
import LocaleGen.Yaml.Quoted
import LocaleGen.Yaml.Token

/-!
# The tokens of a text

`Token.scan` finds the tokens of a text. Indentation opens and closes blocks. A key need not be
marked as one: wherever one could start, the place is remembered, and a colon on the same line makes
it a key after all.
-/

namespace LocaleGen.Yaml

/-- A place where a key could have started. -/
structure SimpleKey where
  /-- How many brackets are open around it. -/
  level : Nat
  token : Nat
  required : Bool
  index : Nat
  line : Nat
  column : Nat

/-- What is known in the middle of a text. -/
structure Scanner where
  cursor : Cursor
  /-- The tokens so far, the last one first. -/
  tokens : List Token
  /-- How many brackets are open. -/
  level : Nat
  indent : Int
  outer : List Int
  allowsKey : Bool
  keys : List SimpleKey

namespace Scanner

def start (t : Text) : Scanner := ⟨.start t, [], 0, -1, [], true, []⟩

def fail {α : Type} (s : Scanner) (detail : Text) : Except Problem α := s.cursor.fail detail

def emit (s : Scanner) (t : Token) : Scanner := { s with tokens := t :: s.tokens }

def emitAt (s : Scanner) (number : Nat) (t : Token) : Scanner :=
  let after := s.tokens.length - number
  { s with tokens := s.tokens.take after ++ t :: s.tokens.drop after }

def skip (s : Scanner) (n : Nat) : Scanner := { s with cursor := s.cursor.skip n }

def inFlow (s : Scanner) : Bool := s.level ≠ 0

/-! ## Blocks -/

/-- Closes the blocks that are indented further than `column`, `fuel` of them at most. -/
def closeBlocksFrom (fuel : Nat) (column : Int) (s : Scanner) : Scanner :=
  match fuel with
  | 0 => s
  | fuel + 1 =>
    if s.indent ≤ column then s
    else
      let closed := { s.emit .blockEnd with indent := s.outer.headD (-1), outer := s.outer.tail }
      closeBlocksFrom fuel column closed

/-- Closes the blocks that are indented further than `column`, unless brackets are open. -/
def closeBlocks (s : Scanner) (column : Int) : Scanner :=
  if s.inFlow then s else closeBlocksFrom (s.outer.length + 1) column s

def opensBlock (s : Scanner) (column : Nat) : Bool := s.indent < column

def indentTo (s : Scanner) (column : Nat) : Scanner :=
  { s with indent := column, outer := s.indent :: s.outer }

def openBlock (s : Scanner) (t : Token) : Scanner :=
  if s.opensBlock s.cursor.column then (s.indentTo s.cursor.column).emit t else s

/-! ## Keys -/

def key? (s : Scanner) : Option SimpleKey := s.keys.find? fun k => k.level = s.level

def dropKey (s : Scanner) : Scanner := { s with keys := s.keys.filter fun k => k.level ≠ s.level }

def giveUpKey (s : Scanner) : Except Problem Scanner :=
  match s.key? with
  | some k => if k.required then s.fail "could not find expected ':'" else .ok s.dropKey
  | none => .ok s

def isStale (s : Scanner) (k : SimpleKey) : Bool :=
  k.line ≠ s.cursor.line || 1024 < s.cursor.index - k.index

def giveUpStale (s : Scanner) : Except Problem Scanner :=
  if s.keys.any fun k => s.isStale k && k.required then s.fail "could not find expected ':'"
  else .ok { s with keys := s.keys.filter fun k => !s.isStale k }

/-- Remembers that a key could start here. -/
def markKey (s : Scanner) : Except Problem Scanner :=
  if !s.allowsKey then .ok s
  else do
    let c := s.cursor
    let s ← s.giveUpKey
    let required := !s.inFlow && s.indent = (c.column : Int)
    let k : SimpleKey := ⟨s.level, s.tokens.length, required, c.index, c.line, c.column⟩
    .ok { s with keys := k :: s.keys }

/-! ## Between tokens -/

def skipGap (fuel : Nat) (s : Scanner) : Scanner :=
  match fuel with
  | 0 => s
  | fuel + 1 =>
    let c := s.cursor.skipSpaces.skipComment
    if c.sees isBreak then
      skipGap fuel { s with cursor := c.next, allowsKey := s.allowsKey || !s.inFlow }
    else { s with cursor := c }

def skipToToken (s : Scanner) : Scanner :=
  let c := s.cursor
  let c := if c.index = 0 ∧ c.sees isByteOrderMark then c.next else c
  skipGap (c.rest.length + 1) { s with cursor := c }

/-! ## One token -/

def leaveBlocks (s : Scanner) : Except Problem Scanner := do
  let s ← (s.closeBlocks (-1)).giveUpKey
  .ok { s with allowsKey := false }

def documentMark (s : Scanner) (t : Token) : Except Problem Scanner := do
  .ok ((← s.leaveBlocks).emit t |>.skip 3)

def directive (s : Scanner) : Except Problem Scanner := do
  let s ← s.leaveBlocks
  let (t, c) ← Property.readDirective s.cursor
  .ok { s.emit t with cursor := c }

def openFlow (s : Scanner) (t : Token) : Except Problem Scanner := do
  let s ← s.markKey
  .ok ({ s.emit t with level := s.level + 1, allowsKey := true }.skip 1)

def closeFlow (s : Scanner) (t : Token) : Except Problem Scanner := do
  let s ← s.giveUpKey
  .ok ({ s.emit t with level := s.level - 1, allowsKey := false }.skip 1)

def flowEntry (s : Scanner) : Except Problem Scanner := do
  let s ← s.giveUpKey
  .ok ({ s.emit .flowEntry with allowsKey := true }.skip 1)

def blockEntry (s : Scanner) : Except Problem Scanner := do
  if !s.inFlow && !s.allowsKey then s.fail "sequence entries are not allowed here"
  else
    let s := if s.inFlow then s else s.openBlock .blockSequenceStart
    let s ← s.giveUpKey
    .ok ({ s.emit .blockEntry with allowsKey := true }.skip 1)

def markedKey (s : Scanner) : Except Problem Scanner := do
  if !s.inFlow && !s.allowsKey then s.fail "mapping keys are not allowed here"
  else
    let s := if s.inFlow then s else s.openBlock .blockMappingStart
    let s ← s.giveUpKey
    .ok ({ s.emit .key with allowsKey := !s.inFlow }.skip 1)

def valueOf (s : Scanner) (k : SimpleKey) : Scanner :=
  let s := s.dropKey.emitAt k.token .key
  let s :=
    if !s.inFlow && s.opensBlock k.column then
      (s.indentTo k.column).emitAt k.token .blockMappingStart
    else s
  { s.emit .value with allowsKey := false }.skip 1

def value (s : Scanner) : Except Problem Scanner := do
  match s.key? with
  | some k => .ok (s.valueOf k)
  | none =>
    if !s.inFlow && !s.allowsKey then s.fail "mapping values are not allowed here"
    else
      let s := if s.inFlow then s else s.openBlock .blockMappingStart
      let s ← { s with allowsKey := !s.inFlow }.giveUpKey
      .ok ((s.emit .value).skip 1)

def reference (s : Scanner) (make : Text → Token) : Except Problem Scanner := do
  let s ← s.markKey
  let (name, c) ← Property.readAnchor s.cursor
  .ok { s.emit (make name) with cursor := c, allowsKey := false }

def tag (s : Scanner) : Except Problem Scanner := do
  let s ← s.markKey
  let (t, c) ← Property.readTag s.cursor
  .ok { s.emit t with cursor := c, allowsKey := false }

def blockScalar (s : Scanner) (folded : Bool) : Except Problem Scanner := do
  let s ← { s with allowsKey := true }.giveUpKey
  let (content, c) ← Block.read folded s.indent s.cursor
  .ok { s.emit (.scalar content false) with cursor := c }

def quotedScalar (s : Scanner) (double : Bool) : Except Problem Scanner := do
  let s ← s.markKey
  let (content, c) ← Quoted.read double s.cursor
  .ok { s.emit (.scalar content false) with cursor := c, allowsKey := false }

def plainScalar (s : Scanner) : Except Problem Scanner := do
  let s ← s.markKey
  let r := Plain.read s.inFlow (s.indent + 1) s.cursor
  .ok { s.emit (.scalar r.content true) with cursor := r.cursor, allowsKey := r.allowsKey }

/-- The characters that cannot start a plain scalar. -/
def indicators : Text := r#"-?:,[]{}#&*!|>'"%@`"#

def startsPlain (s : Scanner) (c : CodePoint) (after : Option CodePoint) : Bool :=
  !(isBlank c || isBreak c || c ∈ indicators) ||
    (!endsWord after && (c = '-' || (!s.inFlow && (c = '?' || c = ':'))))

def token (s : Scanner) (c : CodePoint) : Except Problem Scanner :=
  let after := s.cursor.peek? 1
  let atLineStart := s.cursor.column = 0
  let isSeparator (mark : Text) : Bool :=
    atLineStart && mark.isPrefixOf s.cursor.rest && endsWord (s.cursor.peek? 3)
  if c = '%' && atLineStart then s.directive
  else if isSeparator "---" then s.documentMark .documentStart
  else if isSeparator "..." then s.documentMark .documentEnd
  else if c = '[' then s.openFlow .flowSequenceStart
  else if c = '{' then s.openFlow .flowMappingStart
  else if c = ']' then s.closeFlow .flowSequenceEnd
  else if c = '}' then s.closeFlow .flowMappingEnd
  else if c = ',' then s.flowEntry
  else if c = '-' && endsWord after then s.blockEntry
  else if c = '?' && (s.inFlow || endsWord after) then s.markedKey
  else if c = ':' && (s.inFlow || endsWord after) then s.value
  else if c = '*' then s.reference .alias
  else if c = '&' then s.reference .anchor
  else if c = '!' then s.tag
  else if c = '|' && !s.inFlow then s.blockScalar false
  else if c = '>' && !s.inFlow then s.blockScalar true
  else if c = '\'' then s.quotedScalar false
  else if c = '"' then s.quotedScalar true
  else if s.startsPlain c after then s.plainScalar
  else s.fail "found character that cannot start any token"

/-! ## All tokens -/

def settled (s : Scanner) : List Token :=
  s.tokens.reverse.take ((s.keys.map (·.token)).foldl min s.tokens.length)

/-- Where a text breaks off: the place of its last character, and why. -/
structure Break where
  line : Nat
  column : Nat
  fault : Fault

def Break.of (t : Text) (fault : Fault) : Break :=
  let c := (Cursor.start t).skip (t.length - 1)
  ⟨c.line, c.column, fault⟩

def Break.isAfter (b : Break) (p : Problem) : Bool :=
  match p with
  | .malformed _ line column => line < b.line || (line = b.line && column < b.column)
  | _ => true

def stop (s : Scanner) (broken : Option Break) (p : Problem) : List Token × Option Problem :=
  match broken with
  | some b =>
    if b.isAfter p then (s.tokens.reverse, some p) else (s.settled, some (.brokenOff b.fault))
  | none => (s.tokens.reverse, some p)

/-- The tokens from here on, and what ends them before the end of the text. -/
def run (fuel : Nat) (broken : Option Break) (s : Scanner) : List Token × Option Problem :=
  match fuel with
  | 0 => (s.tokens.reverse, none)
  | fuel + 1 =>
    match s.giveUpStale with
    | .error p => s.stop broken p
    | .ok before =>
      match before.skipToToken.giveUpStale with
      | .error p => before.stop broken p
      | .ok s =>
        let s := s.closeBlocks s.cursor.column
        match s.cursor.rest, broken with
        | [], some b => (before.settled, some (.brokenOff b.fault))
        | [], none =>
          match s.leaveBlocks with
          | .error p => (s.tokens.reverse, some p)
          | .ok s => (s.tokens.reverse, none)
        | c :: _, _ =>
          match s.token c with
          | .error p => before.stop broken p
          | .ok after =>
            match after.cursor.rest, broken with
            | [], some b => (before.settled, some (.brokenOff b.fault))
            | _, _ => run fuel broken after

end Scanner

def Token.scan (t : Text) (fault : Option Fault) : List Token × Option Problem :=
  (Scanner.start t).run (t.length + 1) (fault.map (Scanner.Break.of t))

end LocaleGen.Yaml
