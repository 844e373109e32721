import LocaleGen.Host.Label
import LocaleGen.Host.Punycode
import LocaleGen.Text.Numeral

/-!
# Host names

A host name is labels with dots between them. A label with characters outside ASCII is written
`xn--` and its Punycode. `encodeName` writes a name in ASCII and `decodeName` reads one; both check
every label.
-/

namespace LocaleGen.Host

/-- The characters that stand between labels: the full stop, and three that are typed for it. -/
def isDot (c : CodePoint) : Bool := c.val ∈ [0x2E, 0x3002, 0xFF0E, 0xFF61]

def dot : CodePoint := '.'

def labels (name : Text) : List Text :=
  (name.map fun c => if isDot c then dot else c).splitOn dot

def encodedMark : Text := "xn--"

/-- The label that an encoded one stands for, or the label itself. -/
def decodeLabel (label : Text) : Except Flaw Text := do
  if label.all CodePoint.isAscii then
    let small : Text := label.map CodePoint.asciiLower
    match Text.dropStart? small encodedMark with
    | some encoded =>
      if encoded.isEmpty then .error .nothingEncoded
      else if encoded.getLast? = some hyphen then .error .encodedHyphen
      else
        match Punycode.decode encoded with
        | none => .error .undecodable
        | some decoded => do
          checkLabel decoded
          .ok decoded
    | none =>
      checkLabel small
      .ok small
  else
    checkLabel label
    .ok label

/-- The longest label, and the longest name without a dot at its end. -/
def labelLimit : Nat := 63
def nameLimit : Nat := 253

def encodeLabel (label : Text) : Except Flaw Text := do
  let encoded := if label.all CodePoint.isAscii then label else encodedMark ++ Punycode.encode label
  let _ ← decodeLabel label
  if labelLimit < encoded.length then .error .longLabel else .ok encoded

/-- A name with every label taken by `f`, none of which may be empty. A dot at the end stays. -/
def mapLabels (f : Text → Except Flaw Text) (name : Text) : Except Flaw (List Text) := do
  let all := labels name
  if all = [[]] then .error .emptyName
  else
    let closed := all.getLast? = some []
    let mapped ← (if closed then all.dropLast else all).mapM fun label => do
      let image ← f label
      if image.isEmpty then .error .emptyLabel else .ok image
    .ok (if closed then mapped ++ [[]] else mapped)

def encodeName (name : Text) : Except Flaw Text := do
  let encoded ← mapLabels encodeLabel name
  let text := Text.join [dot] encoded
  let limit := if encoded.getLast? = some [] then nameLimit + 1 else nameLimit
  if limit < text.length then .error .longName else .ok text

def decodeName (name : Text) : Except Flaw Text := do
  .ok (Text.join [dot] (← mapLabels decodeLabel name))

/-! ## Numeric addresses

A host may stand by its number: four numbers of a byte with dots between them, `isVersion4`, or
eight groups of hexadecimal digits with colons between them, `isVersion6`. `looksNumeric` finds the
names that could only be meant as four numbers.
-/

/-- A number of a byte, without a zero in front. -/
def isOctet (t : Text) : Bool :=
  t.length ≤ 3 && (Text.toNat? t).any (· ≤ 255) && (t.length = 1 || t.head? ≠
    some (CodePoint.ofChar '0'))

def isVersion4 (t : Text) : Bool :=
  let octets := t.splitOn '.'
  octets.length = 4 && octets.all isOctet

/-- Where one can be in a text that looks like four numbers with a character between any two of
them. -/
inductive NumberPlace where
  | before (n : Nat)
  | inside (n : Nat)
  deriving DecidableEq

/-- The places after one more character. A digit may also stand between two numbers. -/
def NumberPlace.step (c : CodePoint) (p : NumberPlace) : List NumberPlace :=
  match p with
  | before n => if c.isDigit then [.inside n] else []
  | inside n =>
    (if c.isDigit then [.inside n] else []) ++ (if n < 3 then [.before (n + 1)] else [])

/-- Whether a text is four runs of digits with a character between any two of them. -/
def looksNumeric (t : Text) : Bool :=
  let places :=
    t.foldl (fun places c => (places.flatMap (NumberPlace.step c)).eraseDups) [.before 0]
  NumberPlace.inside 3 ∈ places

def isGroup (t : Text) : Bool :=
  !t.isEmpty && t.length ≤ 4 && t.all fun c => c.hexValue?.isSome

/-- The number of groups beside a gap; a gap at the end has none there. -/
def groupCount? (parts : List Text) : Option Nat :=
  if parts = [[]] then some 0 else if parts.all isGroup then some parts.length else none

/-- Four numbers at the end stand for two groups. -/
def expandTail (parts : List Text) : List Text :=
  match parts.getLast? with
  | some last => if isVersion4 last then parts.dropLast ++ Text.words ["0", "0"] else parts
  | none => []

/-- Eight groups, where two colons next to each other stand for one group of zero or more. -/
def isGroups (t : Text) : Bool :=
  let parts := expandTail (t.splitOn ':')
  let inner := (parts.drop 1).dropLast
  if [] ∈ inner then
    let gap := (inner.takeWhile (!·.isEmpty)).length + 1
    match groupCount? (parts.take gap), groupCount? (parts.drop (gap + 1)) with
    | some before, some after => before + after < 8
    | _, _ => false
  else parts.length = 8 && parts.all isGroup

/-- Eight groups, and the name of a zone behind a percent sign, if any. -/
def isVersion6 (t : Text) : Bool :=
  let (groups, zone) := t.span (· ≠ CodePoint.ofChar '%')
  let isZone := zone.isEmpty || (zone.length ≠ 1 && CodePoint.ofChar '%' ∉ zone.drop 1)
  isZone && CodePoint.ofChar '/' ∉ t && isGroups groups

end LocaleGen.Host
