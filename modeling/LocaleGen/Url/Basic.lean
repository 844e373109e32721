import LocaleGen.Fault
import LocaleGen.Host.Name
import LocaleGen.Text.Literal
import LocaleGen.Unicode.Case

/-!
# Addresses

A `Url` is an address by its parts, in normal form: scheme and host in small letters, a host outside
ASCII encoded, no number after the host where the scheme implies it, no dot segments in a path below
a scheme or a host, and every character that a part cannot hold as it is by its bytes. `Url.ofParts`
brings parts into this form and refuses those that make no address; `Url.render` writes the address.
-/

namespace LocaleGen

/-- The parts of an address as they are written. -/
structure Url.Parts where
  scheme : Text
  userinfo : Text
  host : Text
  portText : Text
  path : Text
  query : Option Text
  fragment : Option Text

/-- An address by its parts in normal form. -/
structure Url where
  scheme : Text
  userinfo : Text
  host : Text
  portNumber : Option Int
  path : Text
  query : Option Text
  fragment : Option Text
  deriving DecidableEq

namespace Url

/-! ## Characters of the parts -/

/-- Letters, digits and four marks, which every part holds as they are. -/
def isUnreserved (c : CodePoint) : Bool :=
  c.isLetter || c.isDigit || c = '-' || c = '.' || c = '_' || c = '~'

/-- An ASCII character with a shape, but none of the given ones. -/
def isVisibleExcept (excluded : String) (c : CodePoint) : Bool :=
  0x20 < c.val && c.val < 0x7F && c ∉ Text.ofString excluded

def isFragmentChar (c : CodePoint) : Bool := isVisibleExcept "\"<>`" c

def isQueryChar (c : CodePoint) : Bool := isVisibleExcept "\"#<>" c

def isPathChar (c : CodePoint) : Bool := isVisibleExcept "\"#<>?`{}" c

def isUserinfoChar (c : CodePoint) : Bool := isVisibleExcept "\"#<>?`{}/;=@[\\]^|" c

def isHostChar (c : CodePoint) : Bool := isUnreserved c || c ∈ Text.ofString "!$&'()*+,;=\"`{}%|\\"

def percentChar (c : CodePoint) : Except Fault Text :=
  if c.isSurrogate then .error (.unencodable .utf8 0 [c])
  else .ok ((Utf8.encodeChar c).flatMap fun b => "%" ++ Text.capitalHex 2 b.toNat)

def quotePart (holds : CodePoint → Bool) (t : Text) : Except Fault Text := do
  .ok (← t.mapM fun c => if isUnreserved c || holds c then .ok [c] else percentChar c).flatten

def quoteOptional (holds : CodePoint → Bool) (t : Option Text) : Except Fault (Option Text) :=
  match t with
  | none => .ok none
  | some t => do .ok (some (← quotePart holds t))

/-- The bytes of a text of ASCII characters in which a percent sign and two digits stand for a
byte. -/
def percentBytes (t : Text) : Bytes :=
  match t with
  | [] => []
  | [c] => [c.val.toUInt8]
  | [c, d] => [c.val.toUInt8, d.val.toUInt8]
  | c :: d :: e :: rest =>
    match if c = '%' then Text.hexNat? [d, e] else none with
    | some b => b.toUInt8 :: percentBytes rest
    | none => c.val.toUInt8 :: percentBytes (d :: e :: rest)

def unquote (t : Text) : Text := Utf8.decodeLossy (percentBytes t)

/-! ## Parts in normal form -/

def isBracketed (host : Text) : Bool :=
  host.head? = some (CodePoint.ofChar '[') && host.getLast? = some (CodePoint.ofChar ']')

/-- A host in its normal form. -/
def normalHost (host : Text) : Except Fault Text :=
  if host.isEmpty then .ok []
  else if Host.looksNumeric host then
    if Host.isVersion4 host then .ok host
    else .error (.badUrl ("Invalid IPv4 address: " ++ host.quoted))
  else if isBracketed host then
    let inside := (host.drop 1).dropLast
    if Host.isVersion6 inside then .ok inside
    else .error (.badUrl ("Invalid IPv6 address: " ++ host.quoted))
  else if host.all CodePoint.isAscii then quotePart isHostChar (host.map CodePoint.asciiLower)
  else
    match Host.encodeName host.lower with
    | .ok encoded => .ok encoded
    | .error _ => .error (.badUrl ("Invalid IDNA hostname: " ++ host.quoted))

def defaultPort? (scheme : Text) : Option Int :=
  if scheme = "http" then some 80
  else if scheme = "https" then some 443
  else if scheme = "ftp" then some 21
  else if scheme = "ws" then some 80
  else if scheme = "wss" then some 443
  else none

/-- Reads the number after a host; there is none where the scheme implies it as it is written. -/
def normalPort (scheme t : Text) : Except Fault (Option Int) :=
  if t.isEmpty then .ok none
  else
    match Text.integer 10 t with
    | .ok n => .ok (if defaultPort? scheme = some n then none else some n)
    | .error _ => .error (.badUrl ("Invalid port: " ++ t.quoted))

def here : Text := "."
def above : Text := ".."

/-- The segments of a path without `.` and with the segment before each `..` taken back. -/
def dropDots (segments : List Text) : List Text :=
  segments.foldl (fun before s =>
    if s = here then before
    else if s = above then (if before = [[]] then before else before.dropLast)
    else before ++ [s]) []

def normalPath (path : Text) : Text :=
  let segments := path.splitOn '/'
  if here ∈ segments ∨ above ∈ segments then Text.join "/" (dropDots segments)
  else path

/-- Refuses a path that does not fit what stands before it. -/
def checkPath (hasScheme hasAuthority : Bool) (path : Text) : Except Fault Unit :=
  let starts (t : String) : Bool := (path.dropStart? t).isSome
  if hasAuthority && !path.isEmpty && !starts "/" then
    .error (.badUrl "For absolute URLs, path must be empty or begin with '/'")
  else if !hasScheme && !hasAuthority && starts "//" then
    .error (.badUrl "Relative URLs cannot have a path starting with '//'")
  else if !hasScheme && !hasAuthority && starts ":" then
    .error (.badUrl "Relative URLs cannot have a path starting with ':'")
  else .ok ()

/-- The address that parts make. -/
def ofParts (p : Parts) : Except Fault Url := do
  let scheme := p.scheme.map CodePoint.asciiLower
  let userinfo ← quotePart isUserinfoChar p.userinfo
  let host ← normalHost p.host
  let portNumber ← normalPort p.scheme p.portText
  let hasScheme := !scheme.isEmpty
  let hasAuthority := !userinfo.isEmpty || !host.isEmpty || portNumber.isSome
  checkPath hasScheme hasAuthority p.path
  let path := if hasScheme || hasAuthority then normalPath p.path else p.path
  .ok { scheme, userinfo, host, portNumber, path := ← quotePart isPathChar path
        query := ← quoteOptional isQueryChar p.query
        fragment := ← quoteOptional isFragmentChar p.fragment }

/-! ## Writing -/

def marked (mark : Text) (part : Option Text) : Text :=
  match part with
  | some t => mark ++ t
  | none => []

def writtenHost (u : Url) : Text := if u.host.contains ":" then "[" ++ u.host ++ "]" else u.host

def netloc (u : Url) : Text := u.writtenHost ++ marked ":" (u.portNumber.map Text.ofInt)

def authority (u : Url) : Text :=
  let userinfo : Text := if u.userinfo.isEmpty then [] else u.userinfo ++ "@"
  userinfo ++ u.netloc

def render (u : Url) : Text :=
  let scheme : Text := if u.scheme.isEmpty then [] else u.scheme ++ ":"
  let authority : Text := if u.authority.isEmpty then [] else "//" ++ u.authority
  scheme ++ authority ++ u.path ++ marked "?" u.query ++ marked "#" u.fragment

def parts (u : Url) : Parts :=
  { scheme := u.scheme, userinfo := u.userinfo, host := u.writtenHost
    portText := (u.portNumber.map Text.ofInt).getD [], path := u.path, query := u.query
    fragment := u.fragment }

/-! ## What an address says -/

def isAbsolute (u : Url) : Bool := !u.scheme.isEmpty && !u.host.isEmpty

def hostName (u : Url) : Except Fault Text :=
  if (u.host.dropStart? Host.encodedMark).isSome then
    match Host.decodeName u.host with
    | .ok name => .ok name
    | .error flaw => .error (.badHost flaw)
  else .ok u.host

end Url

end LocaleGen
