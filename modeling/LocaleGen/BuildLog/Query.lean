import LocaleGen.BuildLog.Basic
import LocaleGen.Json.Reader
import LocaleGen.Json.Value
import LocaleGen.Text.Stream
import LocaleGen.Unicode.Basic

/-!
# Reading the build log back

`BuildLog.query` collects the entries of a category, newest first: it walks from the last day to the
first and takes the lines of each day from the bottom up, until it has as many as were asked for. A
line that is blank or no JSON is passed over. A filter asks for the value of a member, where an
absent member counts as null.
-/

namespace LocaleGen

variable [NestingLimits]

/-- What is asked of the build log. The last day is the day of the query if it is not given, and the
first one is a week before it. -/
structure LogQuery where
  category : Text
  first : Option Date
  last : Option Date
  filters : List (Text × Json)
  limit : Int

/-- The last hundreds of entries about passes. -/
def LogQuery.default : LogQuery := ⟨LogEntry.builds, none, none, [], 500⟩

instance : Inhabited LogQuery := ⟨LogQuery.default⟩

namespace BuildLog

/-! ## One line -/

/-- What a value is called in the complaint that it has no members. -/
def kindName (v : Json) : Text :=
  match v with
  | .null => "NoneType"
  | .bool _ => "bool"
  | .int _ => "int"
  | .float _ => "float"
  | .text _ => "str"
  | .list _ => "list"
  | .object _ => "dict"

/-- Whether an entry has the given values; only objects can be asked. -/
def passes (filters : List (Text × Json)) (v : Json) : Except Fault Bool :=
  match filters, v with
  | [], _ => .ok true
  | _ :: _, .object members =>
    .ok (filters.all fun f => ((members.lookup f.1).getD .null).agrees f.2)
  | _ :: _, v => .error (.noMember (kindName v) "get")

def entryOn? (filters : List (Text × Json)) (line : Text) : Except Fault (Option Json) :=
  let stripped := line.strip
  if stripped.isEmpty then .ok none
  else
    match Json.read stripped with
    | .error (.malformed ..) => .ok none
    | .error e => .error e.fault
    | .ok v => do
      .ok (if ← passes filters v then some v else none)

/-! ## One day -/

def entriesOn (filters : List (Text × Json)) (lines : List Text) : Except Fault (List Json) := do
  .ok ((← lines.mapM (entryOn? filters)).filterMap id)

/-- The entries in the bytes of a file. The lines that arrive before a fault are looked at first. -/
def entriesIn (filters : List (Text × Json)) (bytes : Bytes) : Except Fault (List Json) :=
  let (arrived, fault) := Incoming.lines bytes
  let lines := Text.splitOn arrived '\n'
  match fault with
  | none => entriesOn filters lines
  | some f => do
    let _ ← entriesOn filters lines.dropLast
    .error (.undecodable f)

/-- The entries of a day; a file that cannot be read has none. -/
def entriesOf (log : BuildLog) (q : LogQuery) (tree : FileTree) (day : Date) :
    Except Fault (List Json) := do
  match ← tree.find? (log.file q.category day) with
  | some (.file bytes) => entriesIn q.filters bytes
  | _ => .ok []

/-! ## From day to day -/

/-- Adds to `found` the entries from a day back to the first one, `wanted` of them at most. -/
def walk (log : BuildLog) (q : LogQuery) (tree : FileTree) (first day : Date) (wanted : Nat)
    (found : List Json) : Except Fault (List Json) :=
  if day.number < first.number ∨ wanted = 0 then .ok found
  else
    match log.entriesOf q tree day with
    | .error f => .error f
    | .ok entries =>
      let taken := entries.reverse.take wanted
      match _step : day.previous? with
      | none => .error .outsideCalendar
      | some earlier => walk log q tree first earlier (wanted - taken.length) (found ++ taken)
termination_by day.number
decreasing_by
  have := day.positive
  have e := Date.number_previous? _step
  omega

/-- The first day that a query is about. -/
def firstDay (q : LogQuery) (last : Date) : Except Fault Date :=
  match q.first with
  | some day => .ok day
  | none =>
    match last.back? 7 with
    | some day => .ok day
    | none => .error .outsideCalendar

def query (log : BuildLog) (today : Date) (q : LogQuery) (tree : FileTree) :
    Except Fault (List Json) := do
  let last := q.last.getD today
  let first ← firstDay q last
  walk log q tree first last q.limit.toNat []

end BuildLog

end LocaleGen
