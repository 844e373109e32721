import LocaleGen.Binary64.Shortest
import LocaleGen.Json.Value

/-!
# Writing JSON

`Style` says how values are written: what stands after a comma and a colon, and whether everything
beyond the printable ASCII characters is escaped. `Style.spaced` is the style of failure reports,
`Style.compact` that of log lines, and `Style.canonical` that of the text behind a checksum.
-/

namespace LocaleGen.Json

/-- How a value is written. -/
structure Style where
  afterComma : Text
  afterColon : Text
  asciiOnly : Bool

namespace Style

/-- A blank after commas and colons, printable ASCII only. -/
def spaced : Style := ⟨" ", " ", true⟩

def compact : Style := ⟨"", "", true⟩

def canonical : Style := ⟨" ", " ", false⟩

end Style

def unitEscape (n : Nat) : Text := "\\u" ++ Text.hex 4 n

def numberEscape (c : CodePoint) : Text :=
  if c.val < 0x10000 then unitEscape c.val
  else unitEscape (0xD800 + (c.val - 0x10000) / 0x400) ++
    unitEscape (0xDC00 + (c.val - 0x10000) % 0x400)

/-- One character inside quotes. -/
def writeChar (asciiOnly : Bool) (c : CodePoint) : Text :=
  if c = '"' || c = '\\' then ['\\', c]
  else if c = '\n' then "\\n"
  else if c = '\r' then "\\r"
  else if c = '\t' then "\\t"
  else if c = '\x08' then "\\b"
  else if c = '\x0c' then "\\f"
  else if c.val < 0x20 || (asciiOnly && 0x7F ≤ c.val) then numberEscape c
  else [c]

def writeText (asciiOnly : Bool) (t : Text) : Text :=
  "\"" ++ t.flatMap (writeChar asciiOnly) ++ "\""

/-- A number with a fraction; those that are none have names. -/
def writeFloat (x : Binary64) : Text :=
  match x with
  | .nan => "NaN"
  | .infinite negative => if negative then "-Infinity" else "Infinity"
  | x => x.render

mutual

/-- The text of a value. -/
def write (s : Style) (v : Json) : Text :=
  match v with
  | null => "null"
  | bool b => if b then "true" else "false"
  | int i => Text.ofInt i
  | float x => writeFloat x
  | text t => writeText s.asciiOnly t
  | list items => "[" ++ writeItems s items ++ "]"
  | object members => r"{" ++ writeMembers s members ++ r"}"

def writeItems (s : Style) (items : List Json) : Text :=
  match items with
  | [] => []
  | v :: rest =>
    match rest with
    | [] => write s v
    | _ :: _ => write s v ++ "," ++ s.afterComma ++ writeItems s rest

def writeMembers (s : Style) (members : List (Text × Json)) : Text :=
  match members with
  | [] => []
  | (name, v) :: rest =>
    let first := writeText s.asciiOnly name ++ ":" ++ s.afterColon ++ write s v
    match rest with
    | [] => first
    | _ :: _ => first ++ "," ++ s.afterComma ++ writeMembers s rest

end

end LocaleGen.Json
