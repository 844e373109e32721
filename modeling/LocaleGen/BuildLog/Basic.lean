import LocaleGen.Calendar
import LocaleGen.Fault
import LocaleGen.FileTree
import LocaleGen.Json.Printer

/-!
# The build log

A `BuildLog` is a directory with one file for each category and day. Every entry is one line at the
end of the file of its day, written in ASCII, so no character of its values can end the line.
-/

namespace LocaleGen

variable [NestingLimits]

/-! ## Values that are not written -/

def Fault.writtenTooDeep : Fault :=
  .foreign "RecursionError" "maximum recursion depth exceeded while encoding a JSON object"

def Fault.writtenTooLong : Fault :=
  .value
    ("Exceeds the limit (4300 digits) for integer string conversion; " ++
      "use sys.set_int_max_str_digits() to increase the limit")

mutual

/-- The first thing that keeps a value from being written, if so many more lists and objects may be
open. -/
def Json.refusal? (room : Nat) (v : Json) : Option Fault :=
  match v with
  | .int i => if Json.digitLimit < (Text.ofNat i.natAbs).length then some .writtenTooLong else none
  | .list items =>
    match room with
    | 0 => some .writtenTooDeep
    | room + 1 => refusalOfItems? room items
  | .object members =>
    match room with
    | 0 => some .writtenTooDeep
    | room + 1 => refusalOfMembers? room members
  | _ => none

def Json.refusalOfItems? (room : Nat) (items : List Json) : Option Fault :=
  match items with
  | [] => none
  | v :: rest => (refusal? room v).orElse fun _ => refusalOfItems? room rest

def Json.refusalOfMembers? (room : Nat) (members : List (Text × Json)) : Option Fault :=
  match members with
  | [] => none
  | (_, v) :: rest => (refusal? room v).orElse fun _ => refusalOfMembers? room rest

end

/-! ## Entries

A `LogEntry` is one line of the build log and the category that it belongs to. Entries about passes
have the category `builds` and start with the time, the level, the event and the input asset. A
further value that is null is left out.

Not everything has a line: `Json.refusal?` is what keeps a value from being written. -/

/-- A value to be logged and the category of the line. -/
structure LogEntry where
  category : Text
  data : Json

namespace LogEntry

def render (e : LogEntry) : Text := e.data.write .compact

def refusal? (e : LogEntry) : Option Fault := e.data.refusal? NestingLimits.writing

def builds : Text := "builds"

def passMembers (time event level : Text) (asset : Json) (more : List (Text × Json)) :
    List (Text × Json) :=
  let common : List (Text × Json) :=
    [("timestamp", .text time), ("level", .text level), ("event", .text event), ("asset", asset)]
  common ++ more.filter fun m => !m.2.isNull

def ofPass (time event level : Text) (asset : Json) (more : List (Text × Json)) : LogEntry :=
  ⟨builds, .object (passMembers time event level asset more)⟩

def started (time : Text) (asset target : Json) : LogEntry :=
  ofPass time "build_started" "INFO" asset [("target", target)]

def skipped (time : Text) (asset trigger : Json) : LogEntry :=
  ofPass time "build_skipped" "DEBUG" asset [("trigger", trigger)]

def completed (time : Text) (asset output duration sections keys languages : Json) : LogEntry :=
  ofPass time "build_completed" "INFO" asset
    [("output", output), ("duration_ms", duration), ("sections", sections), ("keys", keys),
     ("languages", languages)]

def failed (time : Text) (asset stage duration report : Json) : LogEntry :=
  ofPass time "build_failed" "ERROR" asset
    [("stage", stage), ("duration_ms", duration), ("error", report)]

end LogEntry

/-! ## Directories of logs -/

/-- Where entries are kept. -/
structure BuildLog where
  directory : Path
  deriving DecidableEq

namespace BuildLog

/-- Where entries are kept unless one says otherwise. -/
def default : BuildLog := ⟨Path.ofText ".nstackgen/logs"⟩

instance : Inhabited BuildLog := ⟨default⟩

def file (log : BuildLog) (category : Text) (day : Date) : Path :=
  (log.directory.append (Path.ofText category)).child (day.render ++ ".jsonl")

def line (e : LogEntry) : Bytes := Utf8.encodeAll (e.render ++ "\n")

/-- The bytes that are added for an entry: no part of it, if it cannot be written. -/
def added (e : LogEntry) : Bytes := if e.refusal?.isSome then [] else line e

/-- Adds an entry to the file of its day, which is opened first and made if it is not there. -/
def write (log : BuildLog) (day : Date) (e : LogEntry) (tree : FileTree) :
    FileTree × Except Fault Unit :=
  let file := log.file e.category day
  match tree.makeParents file with
  | (tree', .error f) => (tree', .error f)
  | (tree', .ok ()) =>
    match tree'.append file (added e), e.refusal? with
    | .error f, _ => (tree', .error f)
    | .ok tree'', some f => (tree'', .error f)
    | .ok tree'', none => (tree'', .ok ())

end BuildLog

end LocaleGen
