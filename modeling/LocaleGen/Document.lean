import LocaleGen.Fault

/-!
# Localization documents

A `Document` maps section keys to phrases, and the key of a phrase to its default text, all in the
order of the source. `Document.ofJson` takes a value that has this shape and nothing else; the first
value in document order that has not is reported. `Document.ofContent` reads a payload, whose `data`
is the document.
-/

namespace LocaleGen

variable [NestingLimits]

abbrev Phrases := Dict Text Text

structure Document where
  sections : Dict Text Phrases

namespace Document

def keyCount (d : Document) : Nat := (d.sections.entries.map fun s => s.2.size).foldl (· + ·) 0

def textsOfJson (path : List Text) (members : List (Text × Json)) :
    Except Finding (List (Text × Text)) :=
  match members with
  | [] => .ok []
  | (key, v) :: rest =>
    match v.asText? with
    | some t => do .ok ((key, t) :: (← textsOfJson path rest))
    | none => .error ⟨path ++ [key], .notText⟩

def sectionsOfJson (members : List (Text × Json)) : Except Finding (List (Text × Phrases)) :=
  match members with
  | [] => .ok []
  | (key, v) :: rest =>
    match v.asObject? with
    | some texts => do
      let texts ← textsOfJson [key] texts
      .ok ((key, Dict.ofList texts) :: (← sectionsOfJson rest))
    | none => .error ⟨[key], .notObject⟩

def decode (v : Json) : Except Finding Document :=
  match v.asObject? with
  | some members => do .ok ⟨Dict.ofList (← sectionsOfJson members)⟩
  | none => .error ⟨[], .notObject⟩

def ofJson (v : Json) : Except Cause Document :=
  (decode v).mapError fun f => .malformedAt f.location f.issue.message

def data? (payload : Json) : Option Json :=
  match payload.member? "data" with
  | some (.object members) => some (.object members)
  | _ => none

def ofContent (content : Text) : Except Fault Document :=
  match Json.read content with
  | .error (.malformed problem place) =>
    .error (.cause (.contentNotJson (Json.describe problem place)))
  | .error e => .error e.fault
  | .ok payload =>
    match data? payload with
    | none => .error (.cause .contentWithoutData)
    | some data => (ofJson data).mapError .cause

end Document

end LocaleGen
