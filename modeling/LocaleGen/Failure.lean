import LocaleGen.Dict
import LocaleGen.Json.Display
import LocaleGen.Json.Printer

/-!
# Failures

A `Failure` is a generation error as it is reported: what kind it is, what happened, when, and a
context of named values. The input asset and the stage of the pass are two of the values, filled in
by whoever knows them. `Failure.withContext` fills in, and never replaces, a value that is not null.
`Failure.new?` and `Failure.withContext?` take a context that comes from outside, which may not name
what is given already.

Some kinds have values of their own, which are taken from the context when the failure arises and
stay as they were then.
-/

namespace LocaleGen

/-! ## Kinds -/

/-- The kinds of failure. -/
inductive FailureKind where
  /-- Anything else that ends a pass. -/
  | general
  /-- A setting or a credential is missing, blank or invalid. -/
  | config
  /-- The language index or a payload could not be fetched. -/
  | retrieval
  /-- The default localization has the wrong shape. -/
  | malformedDocument
  | invalidIdentifier
  | invariantViolation
  | escapeOverflow
  deriving DecidableEq, Repr

namespace FailureKind

/-- The name in reports. -/
def name (k : FailureKind) : Text :=
  match k with
  | general => "NStackGenError"
  | config => "ConfigError"
  | retrieval => "RetrievalError"
  | malformedDocument => "MalformedDocumentError"
  | invalidIdentifier => "InvalidIdentifierError"
  | invariantViolation => "InvariantViolationError"
  | escapeOverflow => "EscapeOverflowError"

def lineage (k : FailureKind) : List FailureKind :=
  match k with
  | general => [general]
  | invalidIdentifier => [invalidIdentifier, malformedDocument, general]
  | k => [k, general]

def ownNames (k : FailureKind) : List Text :=
  match k with
  | config => ["field"]
  | retrieval => ["status_code", "url"]
  | invalidIdentifier => ["key"]
  | _ => []

/-- Where the context of a failure is taken in: a kind with values of its own does so itself. -/
def receiver (k : FailureKind) : FailureKind := if k.ownNames.isEmpty then general else k

def all : List FailureKind :=
  [general, config, retrieval, malformedDocument, invalidIdentifier, invariantViolation,
    escapeOverflow]

end FailureKind

/-! ## Failures with their context -/

/-- A failure as it is reported. -/
structure Failure where
  kind : FailureKind
  message : Text
  timestamp : Text
  context : Dict Text Json
  own : List (Text × Json)

namespace Failure

def valueIn (context : Dict Text Json) (name : Text) : Json := (context.get? name).getD .null

def new (kind : FailureKind) (timestamp message : Text) (context : List (Text × Json)) : Failure :=
  let context := Dict.ofList context
  let own := kind.ownNames.map fun name => (name, valueIn context name)
  { kind, message, timestamp, context, own }

def addContext (context : Dict Text Json) (entry : Text × Json) : Dict Text Json :=
  if (valueIn context entry.1).isNull then context.insert entry.1 entry.2 else context

def withContext (f : Failure) (entries : List (Text × Json)) : Failure :=
  { f with context := (Dict.ofList entries).entries.foldl addContext f.context }

/-- The complaint about the first value of a context that an action has under the same name
already. -/
def repeated? (action : Text) (taken : List Text) (context : List (Text × Json)) : Option Text :=
  ((Dict.ofList context).entries.find? fun e => taken.contains e.1).map fun e =>
    action ++ "() got multiple values for argument '" ++ e.1 ++ "'"

/-- A failure that arises with a context that may repeat what is given already. -/
def new? (kind : FailureKind) (timestamp message : Text) (context : List (Text × Json)) :
    Except Text Failure :=
  match repeated? (kind.receiver.name ++ ".__init__") (Text.words ["self", "message"]) context with
  | some complaint => .error complaint
  | none => .ok (new kind timestamp message context)

/-- Fills in what the context lacks, from one that may repeat what is given already. -/
def withContext? (f : Failure) (entries : List (Text × Json)) : Except Text Failure :=
  match repeated? (FailureKind.general.name ++ ".with_context") (Text.words ["self"]) entries with
  | some complaint => .error complaint
  | none => .ok (f.withContext entries)

def assetName : Text := "asset"
def stageName : Text := "stage"

def asset (f : Failure) : Json := valueIn f.context assetName

def stage (f : Failure) : Json := valueIn f.context stageName

def details (f : Failure) : List (Text × Text) :=
  (f.context.entries.filter fun e => e.1 ≠ assetName ∧ e.1 ≠ stageName).map
    fun e => (e.1, e.2.display)

def members (f : Failure) : List (Text × Json) :=
  [("error_type", .text f.kind.name), ("message", .text f.message), ("asset", f.asset),
    ("stage", f.stage), ("timestamp", .text f.timestamp),
    ("context", .object (f.details.map fun e => (e.1, .text e.2)))]

def toJson (f : Failure) : Json := .object (f.members ++ f.own)

def render (f : Failure) : Text := f.toJson.write .spaced

def summary (f : Failure) : Text :=
  let part (label : Text) (v : Json) : Text := if v.isTruthy then label ++ v.display else []
  f.kind.name ++ ": " ++ f.message ++ part " | asset=" f.asset ++ part " | stage=" f.stage

end Failure

end LocaleGen
