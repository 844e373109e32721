import LocaleGen.Pass.Schedule

/-!
# How a pass may end

What a world makes of a pass, said without the steps of the pass: `Verdict` lists the ways in which
a pass may end, each with the conditions under which it does and with all that the pass asks for
until then. Of the stages `parseConfig` to `persist` the first one that fails decides, and nothing
that belongs to a later one is asked for.

`Conclusion` is the part of the verdict from the fetching of the payloads on. The places of a list
of languages tell its entries apart, so two entries that say the same are still two.
-/

namespace LocaleGen

variable [NestingLimits]

/-! ## The stages in a world -/

namespace World

variable (w : World)

def credentials : Except Fault Credentials := w.content.bind Credentials.ofContent

def fetch (b : Bundling) (place : Nat) : Option (Except Fault Text) :=
  (b.languages[place]?).map (w.payload b.credentials place)

def fails (b : Bundling) (place : Nat) : Bool :=
  match w.fetch b place with
  | some (.error _) => true
  | _ => false

/-- All payloads that are not known yet come. -/
def Delivers (b : Bundling) : Prop :=
  ∀ place ∈ b.pending, ∃ payload, w.fetch b place = some (.ok payload)

/-- The payload at a place: the default language is not asked for again. -/
def payloadAt (b : Bundling) (place : Nat) : Text :=
  if place = b.defaultPlace then b.defaultPayload
  else
    match w.fetch b place with
    | some (.ok payload) => payload
    | _ => []

def payloads (b : Bundling) : Dict Text Text :=
  Dict.ofList (b.languages.mapIdx fun place e => (e.language.locale, w.payloadAt b place))

/-- Every locale of the languages has the payload of the last language with this locale, and no
other locale has one. -/
structure Carries (b : Bundling) (payloads : Dict Text Text) : Prop where
  locales : ∀ locale, (payloads.get? locale).isSome ↔ locale ∈ IndexEntry.locales b.languages
  last : ∀ place e, b.languages[place]? = some e →
    (∀ later e', place < later → b.languages[later]? = some e' →
      e'.language.locale ≠ e.language.locale) →
    if place = b.defaultPlace then payloads.get? e.language.locale = some b.defaultPayload
    else ∃ payload, w.payload b.credentials place e = .ok payload ∧
      payloads.get? e.language.locale = some payload

def inputs (b : Bundling) : Artifact.Inputs :=
  ⟨b.credentials, b.document, b.languages, w.payloads b⟩

/-- The stages before the fetching of the payloads succeed and give `b`, whose default language is
`e`. -/
structure Opens (b : Bundling) (e : IndexEntry) : Prop where
  credentials : w.credentials = .ok b.credentials
  connected : w.connected b.credentials = .ok ()
  languages : w.index b.credentials = .ok b.languages
  default : IndexEntry.findDefault b.languages = .ok (b.defaultPlace, e)
  payload : w.payload b.credentials b.defaultPlace e = .ok b.defaultPayload
  document : Document.ofContent b.defaultPayload = .ok b.document

end World

/-- What is asked for before the payloads are fetched. -/
def Bundling.opening (b : Bundling) (e : IndexEntry) : List Effect :=
  [.read, .connect b.credentials, .requestIndex b.credentials,
    .requestPayload b.credentials b.defaultPlace e]

/-! ## Verdicts -/

/-- How a pass may end that fetches the payloads of `b`, and what it asks for from then on. -/
inductive Conclusion (job : Job) (w : World) (b : Bundling) : List Effect → Outcome → Prop
  /-- A fetch fails; without concurrency it is the first one that does. -/
  | fetchBundle {requested stopped : List Nat} {place : Nat} {f : Fault} :
      requested <+: b.pending → place ∈ requested → w.fetch b place = some (.error f) →
      (job.settings.api.concurrentFetch = false → b.pending.find? (w.fails b) = some place) →
      Conclusion job w b (b.requests requested ++ stopped.map .stop ++ [.disconnect])
        (.failed .fetchBundle (job.report .fetchBundle f))
  | emit {f : Fault} :
      w.Delivers b → Artifact.generate job.settings.target (w.inputs b) = .error f →
      Conclusion job w b (b.requests b.pending ++ [.disconnect])
        (.failed .emit (job.report .emit f))
  | persist {text : Text} {f : Fault} :
      w.Delivers b → Artifact.generate job.settings.target (w.inputs b) = .ok text →
      w.written job.output text = .error f →
      Conclusion job w b (b.requests b.pending ++ [.disconnect, .write job.output text])
        (.failed .persist (job.report .persist f))
  | completed {text : Text} :
      w.Delivers b → Artifact.generate job.settings.target (w.inputs b) = .ok text →
      w.written job.output text = .ok () →
      Conclusion job w b (b.requests b.pending ++ [.disconnect, .write job.output text]) .completed

/-- How a pass may end, and all that it asks for. -/
inductive Verdict (job : Job) (w : World) : List Effect → Outcome → Prop
  | skipped : job.isTriggered = false → Verdict job w [] .skipped
  | parseConfig {f : Fault} :
      job.isTriggered = true → w.credentials = .error f →
      Verdict job w [.read] (.failed .parseConfig (job.report .parseConfig f))
  | connect {c : Credentials} {f : Fault} :
      job.isTriggered = true → w.credentials = .ok c → w.connected c = .error f →
      Verdict job w [.read, .connect c] (.failed .resolve (job.report .resolve f))
  | index {c : Credentials} {f : Fault} :
      job.isTriggered = true → w.credentials = .ok c → w.connected c = .ok () →
        w.index c = .error f →
      Verdict job w [.read, .connect c, .requestIndex c,
        .disconnect] (.failed .resolve (job.report .resolve f))
  | noDefault {c : Credentials} {languages : List IndexEntry} {cause : Cause} :
      job.isTriggered = true → w.credentials = .ok c → w.connected c = .ok () →
        w.index c = .ok languages →
      IndexEntry.findDefault languages = .error cause →
      Verdict job w [.read, .connect c, .requestIndex c, .disconnect]
        (.failed .resolve (job.report .resolve (.cause cause)))
  | fetchDefault {c : Credentials} {languages : List IndexEntry} {place : Nat}
      {e : IndexEntry} {f : Fault} :
      job.isTriggered = true → w.credentials = .ok c → w.connected c = .ok () →
        w.index c = .ok languages →
      IndexEntry.findDefault languages = .ok (place, e) →
      (w.payload c place e).bind Document.ofContent = .error f →
      Verdict job w [.read, .connect c, .requestIndex c, .requestPayload c place e, .disconnect]
        (.failed .fetchDefault (job.report .fetchDefault f))
  | bundle {b : Bundling} {e : IndexEntry} {effects : List Effect} {o : Outcome} :
      job.isTriggered = true → w.Opens b e → Conclusion job w b effects o →
      Verdict job w (b.opening e ++ effects) o

/-- In its world a pass can end in one way only: it does not fetch concurrently, or no two of its
fetches fail. -/
def World.Determines (w : World) (job : Job) : Prop :=
  job.settings.api.concurrentFetch = false ∨ ∀ b e, w.Opens b e → ∀ place ∈ b.pending,
    ∀ other ∈ b.pending,
    w.fails b place = true → w.fails b other = true → place = other

/-! ## Reports -/

def Fault.failure? (f : Fault) (time : Text) : Option Failure :=
  match f with
  | .cause c => some (c.failure time [])
  | .failure own => some own
  | _ => none

def Json.orElse (v other : Json) : Json := if v.isNull then other else v

/-- What the failure `r` says if the fault `f` ends a stage of a pass: a failure of the generator's
own is kept, anything else is unexpected, and asset and stage are filled in. -/
structure Reported (job : Job) (stage : Stage) (f : Fault) (r : Failure) : Prop where
  kept : ∀ own, f.failure? job.time = some own →
    r.kind = own.kind ∧ r.message = own.message ∧ r.timestamp = own.timestamp ∧ r.own = own.own ∧
      r.asset = own.asset.orElse (.text job.inputId) ∧
        r.stage = own.stage.orElse (.text stage.name) ∧
      ∀ name, name ≠ Failure.assetName → name ≠ Failure.stageName →
        r.context.get? name = own.context.get? name
  unexpected : f.failure? job.time = none →
    r.kind = .general ∧ r.message = "Unexpected " ++ f.name ++ ": " ++ f.message ∧
      r.asset = .text job.inputId ∧ r.stage = .text stage.name ∧
      ∀ name, name ≠ Failure.assetName → name ≠ Failure.stageName → r.context.get? name = none

end LocaleGen
