import LocaleGen.Yaml.Cursor

/-!
# Tokens of YAML

What a text of YAML consists of once indentation has become marks: where blocks start and end, where
keys and values stand, and the scalars.
-/

namespace LocaleGen.Yaml

/-- A part of a text. -/
inductive Token where
  | version (major : Nat)
  | handle (name meaning : Text)
  /-- A directive that is passed over. -/
  | otherDirective
  | documentStart
  | documentEnd
  | blockSequenceStart
  | blockMappingStart
  | blockEnd
  | flowSequenceStart
  | flowSequenceEnd
  | flowMappingStart
  | flowMappingEnd
  | blockEntry
  | flowEntry
  | key
  | value
  | alias (name : Text)
  | anchor (name : Text)
  | tag (handle : Option Text) (suffix : Text)
  | scalar (content : Text) (isPlain : Bool)
  deriving DecidableEq

end LocaleGen.Yaml

/-! ## Anchors, tags and directives

The tokens that say something about nodes and documents.
-/

namespace LocaleGen.Yaml.Property

/-! ## Anchors and aliases -/

def endsAnchor (c : Option CodePoint) : Bool :=
  endsWord c || endsOr (· ∈ Text.ofString r"?:,]}%@`") c

def readAnchor (c : Cursor) : Except Problem (Text × Cursor) :=
  let (name, c) := c.next.takeWhile isNameChar
  if name = [] then c.fail "expected alphabetic or numeric character"
  else if endsAnchor (c.peek? 0) then .ok (name, c)
  else c.fail "expected alphabetic or numeric character"

/-! ## Tags -/

def isTagChar (c : CodePoint) : Bool :=
  c.isLetter || c.isDigit || c ∈ Text.ofString "-;/?:@&=+$,_.!~*'()[]"

/-- The bytes that a run of percent signs with two digits each stands for, and what is left. -/
def readBytes (fuel : Nat) (t : Text) : Option (Bytes × Text) :=
  match fuel, t with
  | 0, _ | _, [] => some ([], t)
  | fuel + 1, c :: rest =>
    if c = '%' then
      match rest with
      | a :: b :: rest => do
        let n ← Text.hexNat? [a, b]
        let (more, left) ← readBytes fuel rest
        some (n.toUInt8 :: more, left)
      | _ => none
    else some ([], c :: rest)

/-- The longest beginning of a text that can stand in a tag, with its escapes read, and what is
left. -/
def readSuffixFrom (fuel : Nat) (t : Text) : Option (Text × Text) :=
  match fuel, t with
  | 0, _ | _, [] => some ([], t)
  | fuel + 1, c :: rest =>
    if c = '%' then do
      let (bytes, left) ← readBytes (rest.length + 1) (c :: rest)
      let decoded ← (Utf8.decode bytes).toOption
      let (more, left) ← readSuffixFrom fuel left
      some (decoded ++ more, left)
    else if isTagChar c then do
      let (more, left) ← readSuffixFrom fuel rest
      some (c :: more, left)
    else some ([], c :: rest)

def readSuffix (c : Cursor) : Except Problem (Text × Cursor) :=
  match readSuffixFrom c.rest.length c.rest with
  | none => c.fail "expected an escape of an encoded character"
  | some (suffix, left) =>
    if left.length = c.rest.length then c.fail "expected a tag" else .ok (suffix, c.seek left)

/-- A handle: two marks with a name between them, or a single mark before a space. -/
def readHandle (c : Cursor) : Except Problem (Text × Cursor) :=
  let mark := CodePoint.ofChar '!'
  if !c.sees (· = mark) then c.fail "expected '!'"
  else
    let after := c.next
    if after.sees (fun x => x.val = 0x20) then .ok ([mark], after)
    else
      let (name, after) := after.takeWhile isNameChar
      if after.sees (· = mark) then .ok (mark :: (name ++ [mark]), after.next)
      else after.fail "expected '!'"

/-- Whether a second mark follows in the same word, so the first one begins a handle. -/
def hasHandle (t : Text) : Bool :=
  match t.dropWhile fun c => !(c.val = 0x20 || isBreak c || c = '!') with
  | c :: _ => c = '!'
  | [] => false

def readTag (c : Cursor) : Except Problem (Token × Cursor) := do
  let mark := CodePoint.ofChar '!'
  let after := c.peek? 1
  let (token, c) : Token × Cursor ←
    if after = some (CodePoint.ofChar '<') then do
      let (suffix, c) ← readSuffix (c.skip 2)
      if c.sees (· = CodePoint.ofChar '>') then .ok (Token.tag none suffix, c.next)
      else c.fail "expected '>'"
    else if endsWord after then .ok (Token.tag none [mark], c.next)
    else do
      let (handle, c) ← if hasHandle c.next.rest then readHandle c else .ok ([mark], c.next)
      let (suffix, c) ← readSuffix c
      .ok (Token.tag (some handle) suffix, c)
  if endsPart (c.peek? 0) then .ok (token, c) else c.fail "expected ' '"

/-! ## Directives -/

def readNumber (c : Cursor) : Except Problem (Nat × Cursor) :=
  let (digits, c) := c.takeWhile CodePoint.isDigit
  match Text.toNat? digits with
  | some n => .ok (n, c)
  | none => c.fail "expected a digit"

def readVersion (c : Cursor) : Except Problem (Token × Cursor) := do
  let (major, c) ← readNumber c.skipSpaces
  if !c.sees (· = CodePoint.ofChar '.') then c.fail "expected a digit or '.'"
  else
    let (_, c) ← readNumber c.next
    if endsPart (c.peek? 0) then .ok (.version major, c) else c.fail "expected a digit or ' '"

def readMeaning (c : Cursor) : Except Problem (Token × Cursor) := do
  let (name, c) ← readHandle c.skipSpaces
  if !c.sees (fun x => x.val = 0x20) then c.fail "expected ' '"
  else
    let (meaning, c) ← readSuffix c.skipSpaces
    if endsPart (c.peek? 0) then .ok (.handle name meaning, c) else c.fail "expected ' '"

def readDirective (c : Cursor) : Except Problem (Token × Cursor) := do
  let (name, c) := c.next.takeWhile isNameChar
  if name = [] || !endsPart (c.peek? 0) then c.fail "expected alphabetic or numeric character"
  else
    let (token, c) : Token × Cursor ←
      if name = Text.ofString "YAML" then readVersion c
      else if name = Text.ofString "TAG" then readMeaning c
      else .ok (Token.otherDirective, (c.takeWhile fun x => !isBreak x).2)
    let c := c.skipSpaces.skipComment
    if endsLine (c.peek? 0) then .ok (token, c.next)
    else c.fail "expected a comment or a line break"

end LocaleGen.Yaml.Property
