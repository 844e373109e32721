import LocaleGen.Yaml.Tag
import LocaleGen.Yaml.Timestamp
import LocaleGen.Yaml.Token.Scan

/-!
# Nodes of YAML

A text of YAML holds one document, which is a tree of `Node`s. `Document.ofTokens?` builds it from
the tokens. A node with an anchor stands apart from the tree, so that it is there only once, and
both its place and every alias refer to it.
-/

namespace LocaleGen.Yaml

variable [NestingLimits]

/-- A part of a document. -/
inductive Node where
  | scalar (tag : Tag) (content : Text)
  | sequence (tag : Tag) (items : List Node)
  | mapping (tag : Tag) (members : List (Node × Node))
  /-- The node with an anchor that was finished after so many others. -/
  | reference (number : Nat)

/-- A document. One of the nodes with anchors, which stand in the order in which they are finished,
refers only to those before it. -/
structure Document where
  anchored : List Node
  root : Node

namespace Node

/-- What is known in the middle of the tokens. -/
structure Reading where
  tokens : List Token
  /-- What keeps the tokens from going on to the end of the text. -/
  problem : Option Problem
  anchors : List (Text × Node)
  /-- The nodes with anchors that are finished, the last one first. -/
  anchored : List Node
  depth : Nat
  handles : List (Text × Text)

abbrev Reader (α : Type) := StateT Reading (Except Problem) α

def peek : Reader (Option Token) := do
  let s ← get
  match s.tokens, s.problem with
  | t :: _, _ => return some t
  | [], some p => throw p
  | [], none => return none

def advance : Reader Unit := modify fun s => { s with tokens := s.tokens.tail }

def accept (t : Token) : Reader Bool := do
  if (← peek) = some t then
    advance
    return true
  else return false

def isNext (ts : List Token) : Reader Bool := do
  match ← peek with
  | some t => return t ∈ ts
  | none => return false

def refuse {α : Type} (detail : Text) : Reader α := throw (.malformed detail 0 0)

def expect (t : Token) (detail : Text) : Reader Unit := do
  if !(← accept t) then refuse detail

/-! ## What stands before a node -/

/-- An anchor, a tag, or both in either order. -/
structure Properties where
  anchor : Option Text
  tag : Option (Option Text × Text)

def readAnchor : Reader (Option Text) := do
  match ← peek with
  | some (.anchor name) =>
    advance
    return some name
  | _ => return none

def readTag : Reader (Option (Option Text × Text)) := do
  match ← peek with
  | some (.tag handle suffix) =>
    advance
    return some (handle, suffix)
  | _ => return none

def readProperties : Reader Properties := do
  let before ← readAnchor
  let tag ← readTag
  let after ← if before.isNone then readAnchor else pure none
  return ⟨before.or after, tag⟩

def openTag : Text := "!"

/-- The name of a tag, if one is given that means something. -/
def tagName? (tag : Option (Option Text × Text)) : Reader (Option Text) := do
  match tag with
  | none => return none
  | some (none, suffix) => return some suffix
  | some (some handle, suffix) =>
    match (← get).handles.lookup handle with
    | some meaning => return some (meaning ++ suffix)
    | none => refuse "found undefined tag handle"

def scalarTag (name : Option Text) (isPlain : Bool) (content : Text) : Tag :=
  let spelled := Tag.ofPlain Timestamp.isPlain content
  match name with
  | none => if isPlain then spelled else .text
  | some name => if name = openTag then spelled else .named name

def collectionTag (name : Option Text) (usual : Tag) : Tag :=
  match name with
  | none => usual
  | some name => if name = openTag then usual else .named name

/-! ## Nodes -/

def empty : Node := .scalar .null []

def bindAnchor (anchor : Option Text) (node : Node) : Reader Unit :=
  match anchor with
  | none => pure ()
  | some name => modify fun s => { s with anchors := (name, node) :: s.anchors }

/-- What stands in the place of a finished node: with an anchor, a reference to it. -/
def finish (anchor : Option Text) (node : Node) : Reader Node := do
  match anchor with
  | none => return node
  | some _ =>
    let place := Node.reference (← get).anchored.length
    modify fun s => { s with anchored := node :: s.anchored }
    bindAnchor anchor place
    return place

/-- Opens a collection. Until it is finished, its anchor stands for it without its content. -/
def opening (anchor : Option Text) (node : Node) : Reader Unit := do
  if NestingLimits.yaml ≤ (← get).depth then throw (.brokenOff .tooNested)
  else
    modify fun s => { s with depth := s.depth + 1 }
    bindAnchor anchor node

def closing (node : Node) : Reader Node := do
  modify fun s => { s with depth := s.depth - 1 }
  return node

/-- Where a node may be. -/
inductive Place where
  | flow
  | block
  | blockMember
  deriving DecidableEq

mutual

/-- A node. Every part of it takes at least one token, so `fuel` tokens are enough. -/
def read (fuel : Nat) (place : Place) : Reader Node := do
  match fuel with
  | 0 => refuse "found too many nodes"
  | fuel + 1 =>
    if let some (.alias name) ← peek then
      advance
      match (← get).anchors.lookup name with
      | some node => return node
      | none => refuse "found undefined alias"
    else
      let properties ← readProperties
      let name ← tagName? properties.tag
      let anchors := (← get).anchors
      if properties.anchor.any fun a => (anchors.lookup a).isSome then
        refuse "found duplicate anchor"
      else
        finish properties.anchor (← readBody fuel place properties.anchor name)

def readBody (fuel : Nat) (place : Place) (anchor name : Option Text) : Reader Node := do
  match fuel with
  | 0 => refuse "found too many nodes"
  | fuel + 1 =>
    let sequenceTag := collectionTag name .sequence
    let mappingTag := collectionTag name .mapping
    match ← peek with
    | some (.scalar content isPlain) =>
      advance
      return .scalar (scalarTag name isPlain content) content
    | some .flowSequenceStart =>
      advance
      opening anchor (.sequence sequenceTag [])
      closing (.sequence sequenceTag (← readFlowItems fuel true))
    | some .flowMappingStart =>
      advance
      opening anchor (.mapping mappingTag [])
      closing (.mapping mappingTag (← readFlowMembers fuel true))
    | some .blockEntry =>
      if place = .blockMember then
        opening anchor (.sequence sequenceTag [])
        closing (.sequence sequenceTag (← readEntries fuel false))
      else readAbsent anchor name
    | some .blockSequenceStart =>
      if place = .flow then readAbsent anchor name
      else
        advance
        opening anchor (.sequence sequenceTag [])
        closing (.sequence sequenceTag (← readEntries fuel true))
    | some .blockMappingStart =>
      if place = .flow then readAbsent anchor name
      else
        advance
        opening anchor (.mapping mappingTag [])
        closing (.mapping mappingTag (← readMembers fuel))
    | _ => readAbsent anchor name

def readAbsent (anchor name : Option Text) : Reader Node := do
  if anchor.isSome || name.isSome then
    return .scalar (scalarTag name (name.isNone) []) []
  else refuse "expected the node content"

/-- The entries of a sequence in a block; one that is indented has an end. -/
def readEntries (fuel : Nat) (isIndented : Bool) : Reader (List Node) := do
  match fuel with
  | 0 => refuse "found too many nodes"
  | fuel + 1 =>
    if ← accept .blockEntry then
      let ends : List Token :=
        if isIndented then [.blockEntry, .blockEnd] else [.blockEntry, .key, .value, .blockEnd]
      let item ← if ← isNext ends then pure empty else read fuel .block
      return item :: (← readEntries fuel isIndented)
    else
      if isIndented then expect .blockEnd "expected <block end>"
      return []

/-- The members of a mapping in a block. -/
def readMembers (fuel : Nat) : Reader (List (Node × Node)) := do
  match fuel with
  | 0 => refuse "found too many nodes"
  | fuel + 1 =>
    if ← accept .key then
      let key ← if ← isNext [.key, .value, .blockEnd] then pure empty else read fuel .blockMember
      let value ← readValue fuel
      return (key, value) :: (← readMembers fuel)
    else
      expect .blockEnd "expected <block end>"
      return []

def readValue (fuel : Nat) : Reader Node := do
  match fuel with
  | 0 => refuse "found too many nodes"
  | fuel + 1 =>
    if ← accept .value then
      if ← isNext [.key, .value, .blockEnd] then return empty else read fuel .blockMember
    else return empty

/-- The items of a sequence in brackets. -/
def readFlowItems (fuel : Nat) (isFirst : Bool) : Reader (List Node) := do
  match fuel with
  | 0 => refuse "found too many nodes"
  | fuel + 1 =>
    if ← accept .flowSequenceEnd then return []
    else
      if !isFirst then expect .flowEntry "expected ',' or ']'"
      if ← accept .flowSequenceEnd then return []
      else
        let item ←
          if ← accept .key then
            let key ←
              if ← isNext [.value, .flowEntry, .flowSequenceEnd] then pure empty
              else read fuel .flow
            let value ← readFlowValue fuel .flowSequenceEnd
            pure (.mapping .mapping [(key, value)])
          else read fuel .flow
        return item :: (← readFlowItems fuel false)

/-- The members of a mapping in brackets. -/
def readFlowMembers (fuel : Nat) (isFirst : Bool) : Reader (List (Node × Node)) := do
  match fuel with
  | 0 => refuse "found too many nodes"
  | fuel + 1 =>
    if ← accept .flowMappingEnd then return []
    else
      if !isFirst then expect .flowEntry r"expected ',' or '}'"
      if ← accept .flowMappingEnd then return []
      else
        let member ←
          if ← accept .key then
            let key ←
              if ← isNext [.value, .flowEntry, .flowMappingEnd] then pure empty
              else read fuel .flow
            pure (key, ← readFlowValue fuel .flowMappingEnd)
          else pure (← read fuel .flow, empty)
        return member :: (← readFlowMembers fuel false)

/-- The value of a member in brackets, which the token `close` or a comma may stand in for. -/
def readFlowValue (fuel : Nat) (close : Token) : Reader Node := do
  match fuel with
  | 0 => refuse "found too many nodes"
  | fuel + 1 =>
    if ← accept .value then
      if ← isNext [.flowEntry, close] then return empty else read fuel .flow
    else return empty

end

/-! ## Documents -/

def skipEnds (fuel : Nat) : Reader Unit := do
  match fuel with
  | 0 => pure ()
  | fuel + 1 => if ← accept .documentEnd then skipEnds fuel

/-- The directives before a document: whether one of them gives the version, and the handles. -/
def readDirectives (fuel : Nat) (hasVersion : Bool) (handles : List (Text × Text)) :
    Reader (List (Text × Text)) := do
  match fuel, ← peek with
  | fuel + 1, some (.version major) =>
    advance
    if hasVersion then refuse "found duplicate YAML directive"
    else if major ≠ 1 then refuse "found incompatible YAML document (version 1.* is required)"
    else readDirectives fuel true handles
  | fuel + 1, some (.handle name meaning) =>
    advance
    if (handles.lookup name).isSome then refuse "duplicate tag handle"
    else readDirectives fuel hasVersion ((name, meaning) :: handles)
  | fuel + 1, some .otherDirective =>
    advance
    readDirectives fuel hasVersion handles
  | _, _ => return handles

def usualHandles : List (Text × Text) := [(openTag, openTag), ("!!", Tag.nameStart)]

def isDirectiveNext : Reader Bool := do
  match ← peek with
  | some (.version _) | some (.handle ..) | some .otherDirective => return true
  | _ => return false

/-- The document of a text, if there is one; a second one is refused. -/
def readDocument (fuel : Nat) : Reader (Option Node) := do
  let isExplicit ← if ← isDirectiveNext then pure true else isNext [.documentStart]
  if (← peek).isNone then return none
  else
    let node ←
      if !isExplicit then read fuel .block
      else
        let given ← readDirectives fuel false []
        modify fun s => { s with handles := given ++ usualHandles }
        expect .documentStart "expected <document start>"
        let isEmpty ← isNext [.documentStart, .documentEnd]
        if isEmpty || (← isDirectiveNext) || (← peek).isNone then pure empty else read fuel .block
    skipEnds fuel
    if (← peek).isSome then refuse "expected a single document in the stream" else return some node

end Node

def Document.ofTokens? (tokens : List Token) (problem : Option Problem) :
    Except Problem (Option Document) := do
  let fuel := 8 * tokens.length + 8
  let (root, s) ← (Node.readDocument fuel).run ⟨tokens, problem, [], [], 0, Node.usualHandles⟩
  .ok (root.map fun node => ⟨s.anchored.reverse, node⟩)

end LocaleGen.Yaml
