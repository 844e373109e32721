import LocaleGen.Url.Parse

/-!
# References

A `Reference` is the text of an address by its marks alone: nothing is in normal form, and a part
that is empty counts as missing. `Reference.resolve` follows a reference from a page, text by text,
and `Url.redirect` follows a redirect.
-/

namespace LocaleGen

/-- A text by the marks of an address. -/
structure Reference where
  scheme : Text
  netloc : Text
  path : Text
  /-- What stands behind the first semicolon of the last segment. -/
  parameters : Text
  query : Text
  fragment : Text

namespace Reference

/-! ## Schemes -/

def relativeSchemes : List Text :=
  Text.words ["", "ftp", "http", "gopher", "nntp", "imap", "wais", "file", "https", "shttp",
    "mms", "prospero",
    "rtsp", "rtspu", "sftp", "svn", "svn+ssh", "ws", "wss"]

def hostSchemes : List Text :=
  Text.words ["telnet", "snews", "rsync", "nfs", "git", "git+ssh"]

def parameterSchemes : List Text :=
  Text.words ["", "ftp", "hdl", "prospero", "http", "imap", "https", "shttp", "rtsp", "rtspu",
    "sip", "sips",
    "mms", "sftp", "tel"]

/-! ## Reading and writing -/

def splitScheme (inherited t : Text) : Text × Text :=
  let (scheme, rest) := Url.splitScheme t
  if scheme.isEmpty then (inherited, t) else (scheme.map CodePoint.asciiLower, rest)

def splitParameters (path : Text) : Text × Text :=
  let last := (path.reverse.takeWhile (· ≠ CodePoint.ofChar '/')).reverse
  let (segment, rest) := Url.spanUntil ";" last
  if rest.isEmpty then (path, [])
  else (path.take (path.length - last.length) ++ segment, rest.drop 1)

/-- A text by its marks; it has the inherited scheme if it has none of its own. -/
def split (inherited t : Text) : Reference :=
  let (scheme, rest) := splitScheme inherited t
  let (netloc, rest) := Url.splitAuthority rest
  let (path, rest) := Url.spanUntil "?#" rest
  let (query, rest) := Url.splitMarked '?' "#" rest
  let (fragment, _) := Url.splitMarked '#' "" rest
  let (path, parameters) := if scheme ∈ parameterSchemes then splitParameters path else (path, [])
  { scheme, netloc, path, parameters, query := query.getD [], fragment := fragment.getD [] }

def marked (mark t : Text) : Text := if t.isEmpty then [] else mark ++ t

/-- The text with these parts. -/
def render (r : Reference) : Text :=
  let path := r.path ++ marked ";" r.parameters
  let hasHost := !r.netloc.isEmpty ||
    (!r.scheme.isEmpty && (r.scheme ∈ relativeSchemes || r.scheme ∈ hostSchemes) &&
      (path.dropStart? "//").isNone)
  let slash : Text := if path.isEmpty || (path.dropStart? "/").isSome then [] else "/"
  let place := if hasHost then "//" ++ r.netloc ++ slash ++ path else path
  let scheme : Text := if r.scheme.isEmpty then [] else r.scheme ++ ":"
  scheme ++ place ++ marked "?" r.query ++ marked "#" r.fragment

/-! ## Following -/

/-- The segments of a path, followed from a page with path `base`. -/
def segments (base path : Text) : List Text :=
  let pieces := path.splitOn '/'
  if (path.dropStart? "/").isSome then pieces
  else
    let parts := base.splitOn '/'
    let directory := if parts.getLast? = some [] then parts else parts.dropLast
    let all := directory ++ pieces
    all.take 1 ++ ((all.drop 1).dropLast.filter (!·.isEmpty)) ++ (all.drop 1).getLast?.toList

/-- A path, followed from a page with path `base`. -/
def resolvePath (base path : Text) : Text :=
  let segments := segments base path
  let kept := segments.foldl (fun before s =>
    if s = Url.above then before.dropLast else if s = Url.here then before else before ++ [s]) []
  let closed :=
    if segments.getLast? = some Url.here ∨ segments.getLast? = some Url.above then kept ++ [[]]
    else kept
  let path := Text.join "/" closed
  if path.isEmpty then "/" else path

/-- The text of a reference, followed from the page with the given text. -/
def resolve (page t : Text) : Text :=
  if page.isEmpty then t
  else if t.isEmpty then page
  else
    let base := split [] page
    let r := split base.scheme t
    if r.scheme ≠ base.scheme ∨ r.scheme ∉ relativeSchemes then t
    else if !r.netloc.isEmpty then r.render
    else if r.path.isEmpty && r.parameters.isEmpty then
      render
        { r with
          netloc := base.netloc, path := base.path, parameters := base.parameters
          query := if r.query.isEmpty then base.query else r.query }
    else render { r with netloc := base.netloc, path := resolvePath base.path r.path }

end Reference

namespace Url

def inheritFragment (page target : Url) : Except Fault Url :=
  let own := unquote (target.fragment.getD [])
  let inherited := unquote (page.fragment.getD [])
  if own.isEmpty && !inherited.isEmpty then renew { target with fragment := some inherited }
  else .ok target

def inheritHost (page location : Url) : Except Fault Url :=
  if location.scheme.isEmpty then .ok location
  else do
    let name ← location.hostName
    if name.isEmpty then renew { location with host := ← page.hostName } else .ok location

/-- Where a page leads that names another place, which is an address or a reference. -/
def redirect (page location : Url) : Except Fault Url := do
  let location ← inheritHost page location
  let target ←
    if location.isAbsolute then .ok location
    else parse (Reference.resolve page.render location.render)
  inheritFragment page target

end Url

end LocaleGen
