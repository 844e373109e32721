import LocaleGen.Json.Value
import LocaleGen.Yaml.Node
import LocaleGen.Yaml.Scalar

/-!
# Values of YAML

A `Value` is what a document means. `Value.read` goes from the text to it. A document is given its
meaning level by level, from its outermost node inwards, so that of several problems the outermost
one is reported, and the first one of its level.
-/

namespace LocaleGen.Yaml

variable [NestingLimits]

/-- What a document means. -/
inductive Value where
  | null
  | bool (b : Bool)
  | int (i : Int)
  | float (x : Binary64)
  | text (t : Text)
  | bytes (b : Bytes)
  | moment
  | list (items : List Value)
  | set (items : List Value)
  /-- Keys with values, of which the last one with a key counts. -/
  | mapping (members : List (Value × Value))

/-- The problem with a node or inside it that is reported, with its level counted from the node. -/
abbrev Trouble := Option (Nat × Problem)

namespace Trouble

/-- Of two problems, the one of the outer level, or the first one. -/
def outer (p q : Trouble) : Trouble :=
  match p, q with
  | some p, some q => if q.1 < p.1 then some q else some p
  | none, q => q
  | p, none => p

def outermost (ps : List Trouble) : Trouble := ps.foldl outer none

def inside (p : Trouble) : Trouble := p.map fun p => (p.1 + 1, p.2)

end Trouble

/-- What a node means, and the trouble with it. Where there is any, the value is of no account. -/
structure Meaning (α : Type) where
  value : α
  trouble : Trouble

namespace Meaning

def broken {α : Type} [Inhabited α] (p : Problem) : Meaning α := ⟨default, some (0, p)⟩

def ofExcept {α : Type} (make : α → Value) (r : Except Problem α) : Meaning Value :=
  match r with
  | .ok a => ⟨make a, none⟩
  | .error p => ⟨.null, some (0, p)⟩

def toExcept {α : Type} (m : Meaning α) : Except Problem α :=
  match m.trouble with
  | some p => .error p.2
  | none => .ok m.value

end Meaning

instance : Inhabited Value := ⟨.null⟩

/-- The members of a mapping by where they come from; levels are counted from the members. -/
structure Members where
  trouble : Trouble
  merged : List (Meaning (Value × Value))
  own : List (Meaning (Value × Value))

namespace Members

def empty : Members := ⟨none, [], []⟩

def all (m : Members) : List (Meaning (Value × Value)) := m.merged ++ m.own

end Members

/-- All that can be asked of a node. -/
structure View where
  meaning : Meaning Value
  isMapping : Bool
  isMerge : Bool
  valueKey? : Option Text
  scalar? : Option Text
  brought : Members
  pair? : Option (Meaning Value × Meaning Value)

namespace Value

/-! ## Refusals -/

def noConstructor : Problem := .malformed "could not determine a constructor for the tag" 0 0

def notScalar : Problem := .malformed "expected a scalar node" 0 0

def notSequence : Problem := .malformed "expected a sequence" 0 0

def notMapping : Problem := .malformed "expected a mapping" 0 0

def notMergeable : Problem := .malformed "expected a mapping or list of mappings for merging" 0 0

def notKey : Problem := .malformed "found unhashable key" 0 0

/-- A collection whose content does not fit it. The collection is there before its content is looked
at. -/
def unfilled (p : Problem) : Meaning Value := ⟨.list [], some (1, p)⟩

/-! ## Scalars -/

def ofScalar (tag : Tag) (content : Text) : Meaning Value :=
  match tag with
  | .null => ⟨.null, none⟩
  | .bool => .ofExcept .bool (Scalar.readBool content)
  | .int => .ofExcept .int (Scalar.readInt content)
  | .float => .ofExcept .float (Scalar.readFloat content)
  | .text => ⟨.text content, none⟩
  | .timestamp => .ofExcept (fun _ => .moment) (Scalar.checkTimestamp content)
  | .binary => .ofExcept .bytes (Scalar.readBinary content)
  | .sequence | .orderedMapping | .pairs => unfilled notSequence
  | .mapping | .set => unfilled notMapping
  | .merge | .value | .other _ => .broken noConstructor

def viewScalar (tag : Tag) (content : Text) : View :=
  { meaning := ofScalar tag content, isMapping := false, isMerge := tag = .merge
    valueKey? := if tag = .value then some content else none, scalar? := some content
    brought := ⟨some (0, notMergeable), [], []⟩, pair? := none }

/-! ## Sequences -/

def ofItems (items : List View) : Meaning (List Value) :=
  ⟨items.map (·.meaning.value), .outermost (items.map (·.meaning.trouble))⟩

/-- Items that are mappings with one member each, as lists of its key and its value. -/
def ofPairs (items : List View) : Meaning (List Value) :=
  match items with
  | [] => ⟨[], none⟩
  | item :: rest =>
    match item.pair? with
    | some (k, v) =>
      let others := ofPairs rest
      ⟨.list [k.value, v.value] :: others.value, .outermost [k.trouble, v.trouble, others.trouble]⟩
    | none => .broken notMapping

def listOf (m : Meaning (List Value)) : Meaning Value := ⟨.list m.value, .inside m.trouble⟩

def ofSequence (tag : Tag) (items : List View) : Meaning Value :=
  match tag with
  | .sequence => listOf (ofItems items)
  | .orderedMapping | .pairs => listOf (ofPairs items)
  | .mapping | .set => unfilled notMapping
  | .merge | .value | .other _ => .broken noConstructor
  | _ => .broken notScalar

/-- What several mappings bring into a mapping, in the opposite order. -/
def broughtBy (items : List View) : Members :=
  match items with
  | [] => .empty
  | item :: rest =>
    if item.isMapping then
      let others := broughtBy rest
      ⟨.outer item.brought.trouble others.trouble, [], others.own ++ item.brought.own⟩
    else ⟨some (0, notMergeable), [], []⟩

def viewSequence (tag : Tag) (items : List View) : View :=
  { meaning := ofSequence tag items, isMapping := false, isMerge := false, valueKey? := none
    scalar? := none, brought := broughtBy items, pair? := none }

/-! ## Mappings -/

def canBeKey (v : Value) : Bool :=
  match v with
  | .list _ | .set _ | .mapping _ => false
  | _ => true

def ofMember (key value : Meaning Value) : Meaning (Value × Value) :=
  let unfit := if key.value.canBeKey then none else some (0, notKey)
  ⟨(key.value, value.value), .outermost [key.trouble, unfit, value.trouble]⟩

/-- The members that a mapping brings in from others, and its own. -/
def membersOf (members : List (View × View)) : Members :=
  match members with
  | [] => .empty
  | (key, node) :: rest =>
    let others := membersOf rest
    if key.isMerge then
      ⟨.outer node.brought.trouble others.trouble, node.brought.own ++ others.merged, others.own⟩
    else
      let k :=
        match key.valueKey? with
        | some content => ⟨.text content, none⟩
        | none => key.meaning
      { others with own := ofMember k node.meaning :: others.own }

def gather (m : Members) : Meaning (List (Value × Value)) :=
  ⟨m.all.map (·.value), .outer m.trouble (.outermost (m.all.map (·.trouble)))⟩

/-- The scalar that a mapping stands for where a scalar is asked for: the value of its `=` key. -/
def scalarOf? (members : List (View × View)) : Option Text :=
  (members.find? fun m => m.1.valueKey?.isSome).bind fun m => m.2.scalar?

def ofMisfit (tag : Tag) (content : Option Text) : Meaning Value :=
  match content, tag with
  | none, _ => .broken notScalar
  | some _, .timestamp =>
    .broken (.meaningless (.type "expected string or bytes-like object, got 'list'"))
  | some content, tag => ofScalar tag content

def ofMapping (tag : Tag) (members : List (View × View)) : Meaning Value :=
  let m := gather (membersOf members)
  match tag with
  | .mapping => ⟨.mapping m.value, .inside m.trouble⟩
  | .set => ⟨.set (m.value.map (·.1)), .inside m.trouble⟩
  | .sequence | .orderedMapping | .pairs => unfilled notSequence
  | .merge | .value | .other _ => .broken noConstructor
  | tag => ofMisfit tag (scalarOf? members)

def viewMapping (tag : Tag) (members : List (View × View)) : View :=
  let m := membersOf members
  { meaning := ofMapping tag members, isMapping := true, isMerge := false, valueKey? := none
    scalar? := scalarOf? members, brought := ⟨m.trouble, [], m.all⟩
    pair? :=
      match members with
      | [(key, value)] => some (key.meaning, value.meaning)
      | _ => none }

/-! ## Documents -/

def viewNothing : View := viewScalar .null []

mutual

/-- The view of a node, given those of the nodes with anchors that it refers to. -/
def view (known : List View) (node : Node) : View :=
  match node with
  | .scalar tag content => viewScalar tag content
  | .sequence tag items => viewSequence tag (viewItems known items)
  | .mapping tag members => viewMapping tag (viewMembers known members)
  | .reference number => (known[number]?).getD viewNothing

def viewItems (known : List View) (items : List Node) : List View :=
  match items with
  | [] => []
  | node :: rest => view known node :: viewItems known rest

def viewMembers (known : List View) (members : List (Node × Node)) : List (View × View) :=
  match members with
  | [] => []
  | (key, node) :: rest => (view known key, view known node) :: viewMembers known rest

end

def ofDocument (d : Document) : Except Problem Value :=
  let known := d.anchored.foldl (fun known node => known ++ [view known node]) []
  (view known d.root).meaning.toExcept

/-- What a text means that breaks off where there is a fault; a text without a document means
nothing. -/
def read (t : Text) (fault : Option Fault) : Except Problem Value :=
  if t.all isPrintable then do
    let (tokens, problem) := Token.scan t fault
    match ← Document.ofTokens? tokens problem with
    | some d => ofDocument d
    | none => .ok .null
  else .error (.malformed "special characters are not allowed" 0 0)

/-! ## Uses -/

/-- Neither null, false, zero nor empty. -/
def isTruthy (v : Value) : Bool :=
  match v with
  | .null => false
  | .bool b => b
  | .int i => i != 0
  | .float x => !x.equals (.zero false)
  | .text t => !t.isEmpty
  | .bytes b => !b.isEmpty
  | .moment => true
  | .list items | .set items => !items.isEmpty
  | .mapping members => !members.isEmpty

/-- The value at the end of a path of keys, of which the last one counts in each mapping. -/
def at? (v : Value) (path : List Text) : Option Value :=
  match path, v with
  | [], v => some v
  | name :: rest, .mapping members =>
    let isNamed (key : Value) : Bool :=
      match key with
      | .text t => t = name
      | _ => false
    (members.reverse.find? fun m => isNamed m.1).bind fun m => m.2.at? rest
  | _ :: _, _ => none

def isRaw (v : Value) : Bool :=
  match v with
  | .bytes b => (Utf8.decode b).toOption.isNone
  | _ => false

mutual

/-- The value as structured data, `depth` collections deep; further in, a collection counts as
empty. Bytes count as the text that they encode. What has no place there counts as null: a time, a
set, and bytes that encode no text. Members whose key is no text are left out. -/
def toJson (depth : Nat) (v : Value) : Json :=
  match v with
  | .null | .moment | .set _ => .null
  | .bool b => .bool b
  | .int i => .int i
  | .float x => .float x
  | .text t => .text t
  | .bytes b => (Utf8.decode b).toOption.elim .null .text
  | .list items => .list (toItems depth items)
  | .mapping members => .object (Dict.ofList (toMembers depth members)).entries

def toItems (depth : Nat) (items : List Value) : List Json :=
  match depth, items with
  | 0, _ | _, [] => []
  | depth + 1, v :: rest => toJson depth v :: toItems (depth + 1) rest

def toMembers (depth : Nat) (members : List (Value × Value)) : List (Text × Json) :=
  match depth, members with
  | 0, _ | _, [] => []
  | depth + 1, (key, v) :: rest =>
    match key with
    | .text name => (name, toJson depth v) :: toMembers (depth + 1) rest
    | _ => toMembers (depth + 1) rest

end

def hasTextKeys (members : List (Value × Value)) : Bool :=
  members.all fun m =>
    match m.1 with
    | .text _ => true
    | _ => false

end Value

end LocaleGen.Yaml
