import LocaleGen.Url.Basic

/-!
# Reading addresses

`Url.split` takes a text apart at the marks between the parts of an address, which every text
allows, and `Url.parse` reads the address. `Url.renew` is for an address in which parts were
replaced: these are held to the same rules.
-/

namespace LocaleGen.Url

/-! ## Parts -/

/-- What stands before the first of the given characters, and the rest. -/
def spanUntil (marks : String) (t : Text) : Text × Text := t.span fun c => c ∉ Text.ofString marks

def isSchemeChar (c : CodePoint) : Bool := c.isLetter || c.isDigit || c = '+' || c = '.' || c = '-'

def splitScheme (t : Text) : Text × Text :=
  let (scheme, rest) := t.span isSchemeChar
  match rest with
  | c :: rest' =>
    if c = ':' && (scheme.isEmpty || scheme.head?.any CodePoint.isLetter) then (scheme, rest')
    else ([], t)
  | [] => ([], t)

def splitAuthority (t : Text) : Text × Text :=
  match t.dropStart? "//" with
  | some rest => spanUntil "/?#" rest
  | none => ([], t)

/-- What follows a mark at the front, up to the first of the given characters. -/
def splitMarked (mark : CodePoint) (ends : String) (t : Text) : Option Text × Text :=
  match t with
  | c :: rest =>
    if c = mark then
      let (part, left) := spanUntil ends rest
      (some part, left)
    else (none, t)
  | [] => (none, [])

def splitLast (c : CodePoint) (t : Text) : Option (Text × Text) :=
  let tail := (t.reverse.takeWhile (· ≠ c)).reverse
  if tail.length = t.length then none else some (t.take (t.length - tail.length - 1), tail)

def splitUserinfo (t : Text) : Text × Text := (splitLast '@' t).getD ([], t)

/-- A host, which may stand between brackets, and what follows it. -/
def splitHost (t : Text) : Text × Text :=
  match if t.head? = some (CodePoint.ofChar '[') then splitLast ']' t else none with
  | some (inside, rest) => (inside ++ "]", rest)
  | none => spanUntil ":" t

def split (t : Text) : Parts :=
  let (scheme, rest) := splitScheme t
  let (authority, rest) := splitAuthority rest
  let (path, rest) := spanUntil "?#" rest
  let (query, rest) := splitMarked '?' "#" rest
  let (fragment, _) := splitMarked '#' "" rest
  let (userinfo, hostAndPort) := splitUserinfo authority
  let (host, rest) := splitHost hostAndPort
  { scheme, userinfo, host, portText := (rest.dropStart? ":").getD rest, path, query, fragment }

/-! ## Whole addresses -/

def lengthLimit : Nat := 65536

def findControl (t : Text) : Option (CodePoint × Nat) :=
  let isControl (c : CodePoint) : Bool := c.val < 0x20 || c.val = 0x7F
  (t.find? isControl).map fun c => (c, (t.takeWhile fun d => !isControl d).length)

/-- Refuses a text that is too long or has control characters; `tooLong` and `place` say what it
is. -/
def checkText (tooLong place t : Text) : Except Fault Unit :=
  if lengthLimit < t.length then .error (.badUrl tooLong)
  else
    match findControl t with
    | none => .ok ()
    | some (c, position) =>
      .error (.badUrl ("Invalid non-printable ASCII character in URL" ++ place ++
        ", " ++ Text.quoted [c] ++
        " at position " ++ Text.ofNat position ++ "."))

def parse (t : Text) : Except Fault Url := do
  checkText "URL too long" [] t
  ofParts (split t)

def components (u : Url) : List (Text × Text) :=
  let optional (key : Text) (part : Option Text) : List (Text × Text) :=
    (part.map fun t => (key, t)).toList
  ("scheme", u.scheme) :: ("authority", u.authority) :: ("path", u.path) ::
    (optional "query" u.query ++ optional "fragment" u.fragment)

/-- An address in which parts were replaced, in its normal form. -/
def renew (u : Url) : Except Fault Url := do
  u.components.forM fun (key, t) =>
    checkText ("URL component '" ++ key ++ "' too long") (" " ++ key ++ " component") t
  ofParts u.parts

def requested (u : Url) : Except Fault Url :=
  if u.isAbsolute then .ok u
  else
    renew
      { scheme := [], userinfo := [], host := [], portNumber := none, query := u.query,
        fragment := none
        path := '/' :: u.path.dropWhile (· = CodePoint.ofChar '/') }

end LocaleGen.Url
