import LocaleGen.Artifact.Reader
import LocaleGen.Credentials
import LocaleGen.Document
import LocaleGen.Json.Printer
import LocaleGen.Language
import LocaleGen.Sha256
import LocaleGen.Unicode.Case

/-!
# Sessions

A `Session` is what a generated file gives the application: its languages, the payloads of some of
them, and the store that the accessors read. `resolve` finds the payload that suits a locale best,
`change` puts it into use, and `checksum` tells whether anything in use has changed.

Locales are compared in a normal form, so `en_GB` and `en-gb` are one. The text before the first
hyphen of the normal form is the language code.
-/

namespace LocaleGen

variable [NestingLimits]

/-! ## The phrases in use

A `Store` holds them. They are replaced as a whole when the language changes. -/

structure Store where
  sections : Dict Text Phrases

namespace Store

def empty : Store := ⟨.empty⟩

def lookup (s : Store) (sectionKey key : Text) : Option Text :=
  match s.sections.get? sectionKey with
  | some texts => texts.get? key
  | none => none

def replace (_ : Store) (d : Document) : Store := ⟨d.sections⟩

def snapshot (s : Store) : Document := ⟨s.sections⟩

def getD (s : Store) (sectionKey key fallback : Text) : Text :=
  (s.lookup sectionKey key).getD fallback

def describeAccessor (sectionKey : Text) : Text :=
  "<SectionKeyDelegate(section_key=" ++ sectionKey.quoted ++ ")>"

end Store

/-! ## Locales -/

namespace Locale

def normal (locale : Text) : Text := (locale.replace '_' "-").lower

/-- What comes before the first hyphen of a normal form. -/
def code (normalized : Text) : Text := normalized.takeWhile (· ≠ CodePoint.ofChar '-')

/-- The known locales by their normal forms. Of two that have one normal form the later counts, in
the place of the earlier. -/
def table (known : List Text) : Dict Text Text := Dict.ofList (known.map fun l => (normal l, l))

/-- The known locale with the normal form of the wanted one, or else the first one with its language
code. -/
def best? (known : List Text) (wanted : Text) : Option Text :=
  match (table known).get? (normal wanted) with
  | some exact => some exact
  | none =>
    ((table known).entries.find? fun e => code e.1 = code (normal wanted)).map Prod.snd

end Locale

/-- What a generated file gives the application. -/
structure Session where
  credentials : Credentials
  languages : List IndexEntry
  bundled : Dict Text Text
  /-- The locale in use, empty before the first choice. -/
  picked : Text
  debug : Bool
  store : Store

namespace Session

def defaultLanguage? (s : Session) : Option Language :=
  (IndexEntry.findDefault? s.languages).map fun found => found.2.language

/-- The locale of the default language if it has a payload. -/
def defaultLocale? (s : Session) : Option Text :=
  match s.defaultLanguage? with
  | some l => if s.bundled.contains l.locale then some l.locale else none
  | none => none

/-- The locale with a payload that suits the wanted one best: itself, one of the same language, or
that of the default language. -/
def resolve (s : Session) (wanted : Text) : Option Text :=
  match Locale.best? s.bundled.keys wanted with
  | some locale => some locale
  | none => s.defaultLocale?

/-- Puts the payload that suits a locale best into use and tells which it is. A session that fails
to change stays as it is. -/
def change (s : Session) (wanted : Text) : Except Fault (Session × Text) :=
  match s.resolve wanted with
  | none => .error (.key ("No bundled translations for locale '" ++ wanted ++ "'"))
  | some locale => do
    let document ← Document.ofContent ((s.bundled.get? locale).getD [])
    .ok ({ s with store := s.store.replace document, picked := locale }, locale)

/-! ## Checksums -/

def sorted {α : Type} (members : List (Text × α)) : List (Text × α) :=
  members.mergeSort fun a b => !Text.lt b.1 a.1

def storeValue (s : Store) : Json :=
  .object ((sorted s.sections.entries).map fun e =>
    (e.1, .object ((sorted e.2.entries).map fun t => (t.1, .text t.2))))

/-- The text that stands for all that is in use: the locale and the phrases, whatever their
order. -/
def fingerprint (s : Session) : Text :=
  (Json.list [.text s.picked, storeValue s.store]).write .canonical

def checksum (s : Session) : Except Fault Text :=
  match Utf8.encode s.fingerprint with
  | .ok bytes => .ok ((Sha256.hexDigest bytes).take 16)
  | .error (position, run) => .error (.unencodable .utf8 position run)

end Session

/-! ## Sessions that are opened

A generated source opens a session with what it holds: its credentials, its registry of languages
and the payloads that it embeds. Nothing is in use until a language is chosen. -/

/-- The payloads that are embedded for a list of languages, by locale. -/
def Artifact.embedded (payloads : Dict Text Text) (languages : List IndexEntry) : Dict Text Text :=
  Dict.ofList (languages.filterMap fun e =>
    (payloads.get? e.language.locale).map fun payload => (e.language.locale, payload))

namespace Session

def new (credentials : Credentials) (languages : List IndexEntry) (bundled : Dict Text Text)
    (debug : Bool) : Session where
  credentials
  languages
  bundled
  picked := []
  debug
  store := .empty

/-- An entry of the registry of a source, which keeps nothing of where the payload comes from. -/
def registered (id : Int) (language : Language) : IndexEntry := ⟨id, none, none, false, language⟩

/-- The session of a source in which this has been read. -/
def ofReading (r : Reading) (debug : Bool) : Session :=
  new r.credentials (r.languages.map fun entry => registered entry.1 entry.2)
    (Dict.ofList r.bundle) debug

/-! ## Requests

What an application may ask of a session, one `Request` after the other. `Session.switch` changes
the language step by step, and what has been done by the time of a failure stays done;
`Session.serve` answers many requests. -/

/-- What an application asks for. -/
inductive Request where
  | change (wanted : Text)
  | resolve (wanted : Text)
  | checksum
  | phrase (sectionKey key fallback : Text)

/-- What an application is told. -/
inductive Reply where
  | changed (locale : Text)
  | resolved (locale : Option Text)
  | checksum (digest : Text)
  | phrase (text : Text)

/-- Puts the payload that suits a locale best into use: first the phrases, then the locale. -/
def switch (wanted : Text) : ExceptT Fault (StateM Session) Text := do
  let before ← get
  match before.resolve wanted with
  | none => throw (.key ("No bundled translations for locale '" ++ wanted ++ "'"))
  | some locale =>
    let document ← (Document.ofContent ((before.bundled.get? locale).getD []) : Except Fault Document)
    modify fun s => { s with store := s.store.replace document }
    modify fun s => { s with picked := locale }
    return locale

def answer (s : Session) (request : Request) : Session × Except Fault Reply :=
  match request with
  | .change wanted =>
    let (r, next) := (switch wanted).run.run s
    (next, r.map .changed)
  | .resolve wanted => (s, .ok (.resolved (s.resolve wanted)))
  | .checksum => (s, s.checksum.map .checksum)
  | .phrase sectionKey key fallback => (s, .ok (.phrase (s.store.getD sectionKey key fallback)))

def serve (s : Session) (requests : List Request) : Session × List (Except Fault Reply) :=
  match requests with
  | [] => (s, [])
  | request :: rest =>
    let (next, reply) := s.answer request
    let (last, replies) := next.serve rest
    (last, reply :: replies)

def activated? (reply : Except Fault Reply) : Option Text :=
  match reply with
  | .ok (.changed locale) => some locale
  | _ => none

def lastActivated? (replies : List (Except Fault Reply)) : Option Text :=
  replies.reverse.findSome? activated?

end Session

end LocaleGen
