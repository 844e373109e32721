import LocaleGen.Fault
import LocaleGen.Url.Basic

/-!
# Responses

What the service replies to a request, and the tables that say so: a `RouteTable` maps an address to
its `Route`, which is a response, a failure of the transport, or silence.
-/

/-! ## Content types

A content type is a list of parameters with semicolons between them, the first of which is the type
itself. `ContentType.charset?` finds the encoding that the parameters name. A value may stand
between quotes; behind a name with a star it may be cut into numbered pieces, stand by its bytes,
and name its own encoding. -/

namespace LocaleGen.ContentType

/-! ## Parameters -/

/-- The pieces between the semicolons outside quotes; `escaped` and `quoted` say what came
before. -/
def splitPieces (escaped quoted : Bool) (t : Text) : List Text :=
  match t with
  | [] => [[]]
  | c :: rest =>
    if c = ';' && !quoted then [] :: splitPieces false false rest
    else
      match splitPieces (c = '\\') (if c = '"' && !escaped then !quoted else quoted) rest with
      | [] => [[c]]
      | piece :: pieces => (c :: piece) :: pieces

def readPiece (piece : Text) : Text × Text :=
  let (name, rest) := piece.span (· ≠ CodePoint.ofChar '=')
  match rest with
  | [] => (Text.strip name, [])
  | _ :: value => ((Text.strip name).map CodePoint.asciiLower, Text.strip value)

def written (contentType : Text) : List (Text × Text) :=
  (splitPieces false false contentType).map readPiece

/-! ## Quotes -/

def escape (t : Text) : Text := (t.replace '\\' "\\\\").replace '"' "\\\""

/-- The text with `image` for each place where two given characters follow each other. -/
def replacePair (first second image : CodePoint) (t : Text) : Text :=
  match t with
  | c :: d :: rest =>
    if c = first && d = second then image :: replacePair first second image rest
    else c :: replacePair first second image (d :: rest)
  | _ => t

/-- What stands between quotes or angle brackets, or the text itself. -/
def unquote (t : Text) : Text :=
  let isBetween (opening closing : Char) : Bool :=
    t.length > 1 && t.head? = some (CodePoint.ofChar opening) && t.getLast? =
      some (CodePoint.ofChar closing)
  let inside := (t.drop 1).dropLast
  if isBetween '"' '"' then replacePair '\\' '"' '"' (replacePair '\\' '\\' '\\' inside)
  else if isBetween '<' '>' then inside
  else t

/-! ## Values in pieces -/

/-- A piece of a value: its number, what it says, and whether it stands by its bytes. -/
structure Piece where
  number : Option Nat
  value : Text
  byBytes : Bool

def star : CodePoint := '*'

/-- The name before the star of a name for a piece, and the number behind it, which a second star
may follow. -/
def pieceName? (name : Text) : Option (Text × Option Nat) :=
  let (base, rest) := name.span (· ≠ star)
  let isName := !base.isEmpty && base.all fun c => c.isLetter || c.isDigit || c = '_'
  let digits := rest.drop 1
  let digits := if digits.getLast? = some star then digits.dropLast else digits
  if !isName || rest.isEmpty then none
  else if rest.length = 1 then some (base, none)
  else (Text.toNat? digits).map fun n => (base, some n)

def Piece.isBefore (p q : Piece) : Bool :=
  let (m, n) := (p.number.getD 0, q.number.getD 0)
  m < n || (m = n && (Text.lt p.value q.value || (p.value = q.value && (!p.byBytes && q.byBytes))))

/-- Refuses pieces with a number next to such without one, which have no order. -/
def checkNumbers (pieces : List Piece) : Except Fault Unit :=
  match pieces with
  | p :: q :: rest =>
    let kind (p : Piece) : Text := if p.number.isSome then "int" else "NoneType"
    if p.number.isSome = q.number.isSome then checkNumbers (q :: rest)
    else
      .error (.type ("'<' not supported between instances of '" ++ kind q ++ "' and '" ++ kind p ++ "'"))
  | _ => .ok ()

/-- A value, and the encoding that it names for itself if it stands by its bytes. -/
structure Value where
  text : Text
  encoding : Option Text

/-- The value that pieces make. -/
def joinPieces (pieces : List Piece) : Except Fault Value := do
  checkNumbers pieces
  let sorted := pieces.mergeSort fun p q => !q.isBefore p
  let texts := sorted.map fun p =>
    if p.byBytes then Encoding.latin1 (Url.percentBytes p.value) else p.value
  let value := escape texts.flatten
  if sorted.any (·.byBytes) then
    let (encoding, rest) := value.span (· ≠ CodePoint.ofChar '\'')
    let (_, rest) := (rest.drop 1).span (· ≠ CodePoint.ofChar '\'')
    match rest with
    | _ :: value => .ok ⟨unquote ("\"" ++ value ++ "\""), some encoding⟩
    | [] => .ok ⟨unquote ("\"" ++ value ++ "\""), some []⟩
  else .ok ⟨unquote ("\"" ++ value ++ "\""), none⟩

def readParameter (name value : Text) : (Text × Value) ⊕ (Text × Piece) :=
  match pieceName? name with
  | some (base, number) => .inr (base, ⟨number, unquote value, name.getLast? = some star⟩)
  | none => .inl (name, ⟨unquote ("\"" ++ escape (unquote value) ++ "\""), none⟩)

/-- The parameters of a content type; those in pieces come last. -/
def parameters (contentType : Text) : Except Fault (List (Text × Value)) := do
  match written contentType with
  | [] => .ok []
  | (name, value) :: rest =>
    let read := rest.map fun p => readParameter p.1 p.2
    let pieces := read.filterMap Sum.getRight?
    let joined ← ((pieces.map Prod.fst).eraseDups).mapM fun base => do
      let value ← joinPieces ((pieces.filter fun p => p.1 = base).map Prod.snd)
      .ok (base, value)
    .ok ((name, ⟨unquote value, none⟩) :: read.filterMap Sum.getLeft? ++ joined)

/-! ## The encoding -/

def Value.decoded (v : Value) : Text :=
  match v.encoding with
  | none => v.text
  | some name =>
    let charset := Charset.ofName? (if name.isEmpty then "us-ascii" else name)
    (charset.bind fun c => c.decode? (v.text.map fun c => c.val.toUInt8)).getD v.text

/-- The encoding that a content type names, if it names a known one. -/
def charset? (contentType : Text) : Except Fault (Option Charset) := do
  let isNamed (name : Text) : Bool := name.map CodePoint.asciiLower = Text.ofString "charset"
  let named := (← parameters contentType).find? fun p => isNamed p.1
  match named with
  | none => .ok none
  | some p =>
    let name := p.2.decoded
    if !name.all CodePoint.isAscii then .ok none
    else if name.contains "\x00" then .error (.value "embedded null character")
    else .ok (Charset.ofName? name)

end LocaleGen.ContentType

/-! ## Responses -/

namespace LocaleGen

def Header.check (t : Text) : Except Fault Unit :=
  match t.dropWhile CodePoint.isAscii with
  | [] => .ok ()
  | c :: rest =>
    .error (.unencodable .ascii (t.takeWhile CodePoint.isAscii).length
      ((c :: rest).takeWhile fun c => !c.isAscii))

/-- A reply of the service. -/
structure Response where
  status : Nat
  body : Bytes
  location : Option Text
  contentType : Option Text

namespace Response

def isError (r : Response) : Bool := 400 ≤ r.status && r.status ≤ 599

def redirectStatuses : List Nat := [301, 302, 303, 307, 308]

def redirect? (r : Response) : Option Text :=
  if r.status ∈ redirectStatuses then r.location else none

def checkHeaders (r : Response) : Except Fault Unit := do
  Header.check (r.location.getD [])
  Header.check (r.contentType.getD [])

def charset (r : Response) : Except Fault Charset :=
  match r.contentType with
  | none => .ok .utf8
  | some t => do .ok ((← ContentType.charset? t).getD .utf8)

def text (r : Response) : Except Fault Text :=
  if r.body.isEmpty then .ok []
  else do
    match (← r.charset).decodeLossy r.body with
    | .ok t => .ok t
    | .error refusal => .error (.refused refusal)

end Response

/-- What happens to a request. -/
inductive Route where
  | reply (r : Response)
  | broken (detail : Text)
  | silent

abbrev RouteTable := Dict Text Route

/-- What happens to a request to an address; there is no way to one that is not listed. -/
def RouteTable.find (table : RouteTable) (url : Text) : Route :=
  (table.get? url).getD (.broken "no route")

end LocaleGen
