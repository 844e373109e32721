import LocaleGen.Cause
import LocaleGen.Charset.Basic
import LocaleGen.Finding
import LocaleGen.Host.Flaw
import LocaleGen.Json.Reader
import LocaleGen.Text.Utf8

/-!
# Faults

A `Fault` is anything that ends an operation: a cause of the generator's own, a failure that was
reported elsewhere, or something outside the generator, such as a missing file or bytes that are no
text. `Fault.name` and `Fault.message` give the words of the latter.
-/

namespace LocaleGen

/-! ## Files -/

/-- Why the file system refuses an operation. -/
inductive FileError where
  | notFound (path : Text)
  | isDirectory (path : Text)
  | notReplaceable (source target : Text)
  | exists (path : Text)
  | notDirectory (path : Text)
  | busy (source target : Text)
  | nameTooLong (path : Text)
  | other (detail : Text)
  deriving DecidableEq

namespace FileError

def name (e : FileError) : Text :=
  match e with
  | notFound _ => "FileNotFoundError"
  | isDirectory _ | notReplaceable .. => "IsADirectoryError"
  | .exists _ => "FileExistsError"
  | notDirectory _ => "NotADirectoryError"
  | busy .. | nameTooLong _ | other _ => "OSError"

def message (e : FileError) : Text :=
  match e with
  | notFound path => "[Errno 2] No such file or directory: " ++ path.quoted
  | isDirectory path => "[Errno 21] Is a directory: " ++ path.quoted
  | notReplaceable source target =>
    "[Errno 21] Is a directory: " ++ source.quoted ++ " -> " ++ target.quoted
  | .exists path => "[Errno 17] File exists: " ++ path.quoted
  | notDirectory path => "[Errno 20] Not a directory: " ++ path.quoted
  | busy source target =>
    "[Errno 16] Device or resource busy: " ++ source.quoted ++ " -> " ++ target.quoted
  | nameTooLong path => "[Errno 36] File name too long: " ++ path.quoted
  | other detail => detail

end FileError

/-! ## Everything that ends an operation -/

/-- The encodings that may refuse a text. -/
inductive Codec where
  | ascii
  | utf8
  deriving DecidableEq

/-- Why an operation ended. -/
inductive Fault where
  | cause (c : Cause)
  /-- A failure reported elsewhere, with its context. -/
  | failure (f : Failure)
  | file (e : FileError)
  | undecodable (f : Utf8.Fault)
  /-- An encoding refuses bytes as a whole. -/
  | refused (r : Charset.Refusal)
  /-- A text has no bytes: its first code points without any, and where they start. -/
  | unencodable (codec : Codec) (position : Nat) (run : Text)
  | notJson (problem : Json.Problem) (place : Json.Place)
  | tooDeep (inList : Bool)
  /-- Collections are nested too deeply. -/
  | tooNested
  | tooManyDigits (count : Nat)
  /-- Structured data does not have the shape that it should. -/
  | invalid (findings : List Finding)
  /-- An argument has the right type and no meaning. -/
  | value (detail : Text)
  /-- An argument has the wrong type. -/
  | type (detail : Text)
  /-- A number is too large. -/
  | overflow (detail : Text)
  | noMember (typeName name : Text)
  | tooShort
  | key (detail : Text)
  | badUrl (detail : Text)
  | badHost (flaw : Host.Flaw)
  | outsideCalendar
  | notImplemented
  | foreign (className detail : Text)

namespace Fault

def name (f : Fault) : Text :=
  match f with
  | cause c => c.kind.name
  | failure f => f.kind.name
  | file e => e.name
  | undecodable _ => "UnicodeDecodeError"
  | refused r => r.name
  | unencodable .. => "UnicodeEncodeError"
  | notJson .. => "JSONDecodeError"
  | tooDeep _ | tooNested => "RecursionError"
  | tooManyDigits _ | value _ => "ValueError"
  | invalid _ => "ValidationError"
  | type _ => "TypeError"
  | noMember .. => "AttributeError"
  | tooShort => "IndexError"
  | key _ => "KeyError"
  | badUrl _ => "InvalidURL"
  | badHost flaw => flaw.name
  | overflow _ | outsideCalendar => "OverflowError"
  | notImplemented => "NotImplementedError"
  | foreign className _ => className

/-- The line shown for a text that an encoding refuses. -/
def unencodableMessage (codec : Codec) (position : Nat) (run : Text) : Text :=
  let codecName : Text :=
    match codec with
    | .ascii => "'ascii'"
    | .utf8 => "'utf-8'"
  let reason : Text :=
    match codec with
    | .ascii => "ordinal not in range(128)"
    | .utf8 => "surrogates not allowed"
  let place : Text :=
    match run with
    | [c] => "character '" ++ Text.numbered c ++ "' in position " ++ Text.ofNat position
    | _ =>
      "characters in position " ++ Text.ofNat position ++ "-" ++
        Text.ofNat (position + run.length - 1)
  codecName ++ " codec can't encode " ++ place ++ ": " ++ reason

/-- The line shown for a fault. -/
def message (f : Fault) : Text :=
  match f with
  | cause c => c.message
  | failure f => f.message
  | file e => e.message
  | undecodable f => f.message
  | refused r => r.message
  | unencodable codec position run => unencodableMessage codec position run
  | notJson problem place => Json.describe problem place
  | tooDeep inList =>
    let container : Text := if inList then "array" else "object"
    "maximum recursion depth exceeded while decoding a JSON " ++ container ++
      " from a unicode string"
  | tooNested => "maximum recursion depth exceeded while calling a Python object"
  | tooManyDigits count =>
    "Exceeds the limit (4300 digits) for integer string conversion: value has " ++
      Text.ofNat count ++
      " digits; use sys.set_int_max_str_digits() to increase the limit"
  | invalid findings => Text.join "\n" (findings.map fun f => f.location ++ ": " ++ f.issue.message)
  | value detail | type detail | overflow detail | key detail | badUrl detail | foreign _ detail =>
    detail
  | badHost flaw => flaw.message
  | noMember typeName name => "'" ++ typeName ++ "' object has no attribute '" ++ name ++ "'"
  | tooShort => "string index out of range"
  | outsideCalendar => "date value out of range"
  | notImplemented => []

def isFileError (f : Fault) : Bool :=
  match f with
  | file _ => true
  | _ => false

end Fault

/-- Findings as a fault. A reason that quotes surrogates cannot be reported; then the report is what
fails. -/
def Fault.ofFindings (findings : List Finding) : Fault :=
  let unreportable (f : Finding) : Option (Nat × Text) :=
    match f.issue with
    | .rejected reason => Utf8.firstSurrogates reason
    | _ => none
  match findings.findSome? unreportable with
  | some (position, run) => .unencodable .utf8 position run
  | none => .invalid findings

def Json.ReadError.fault (e : Json.ReadError) : Fault :=
  match e with
  | .malformed problem place => .notJson problem place
  | .tooDeep inList => .tooDeep inList
  | .tooManyDigits count => .tooManyDigits count

end LocaleGen
